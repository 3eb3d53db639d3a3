import DeliveryCheck.Command.Host
import DeliveryCheck.Files.Tree
import DeliveryCheck.Sql.Store

namespace DeliveryCheck.Command

structure Machine where
  tree : Files.Tree := {}
  /-- The lines that were printed, the latest one first. -/
  output : List String := []
  errors : List String := []

namespace Machine

def withTree (machine : Machine) (tree : Files.Tree) : Machine := { machine with tree := tree }

def print (machine : Machine) (line : String) : Machine :=
  { machine with output := line :: machine.output }

def printError (machine : Machine) (line : String) : Machine :=
  { machine with errors := line :: machine.errors }

def execute (database : Sql.Database) (table : String) : Runner (StateM Machine) :=
  fun options report scenarios machine =>
    let setting : Setting database.State :=
      ⟨Sql.store table database.server, database.identity, database.wall⟩
    let (ended, world) :=
      Run.execute setting options report scenarios ⟨0, database.initial, 0, []⟩
    (ended, world.printed.foldl print machine)

/-- The machine as a host; `dial` says which databases can be reached. -/
def host (environment : Environment) (dial : DatabaseConfig → Except Sql.Fault Sql.Database) :
    Host (StateM Machine) where
  environment := environment
  terminal := false
  contains path := return (← get).tree.contains path
  read path := return (← get).tree.read path
  makeDirectories path machine :=
    let (made, tree) := machine.tree.makeDirectories path
    (made, machine.withTree tree)
  openToAppend path machine :=
    match machine.tree.openToAppend path with
    | .ok tree => (.ok (), machine.withTree tree)
    | .error fault => (.error fault, machine)
  print line := modify (·.print line)
  printError line := modify (·.printError line)
  dial config := return (dial config).map fun database => execute database config.table

end Machine

end DeliveryCheck.Command

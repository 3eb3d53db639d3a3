import DeliveryCheck.Command.Environment
import DeliveryCheck.Config.Basic
import DeliveryCheck.Files.Tree
import DeliveryCheck.Run.Execution
import DeliveryCheck.Sql.Fault

namespace DeliveryCheck.Command

abbrev Runner (m : Type → Type) : Type :=
  RunOptions → ReportOptions → List Scenario → m (Except Error (List ScenarioResult))

structure Host (m : Type → Type) where
  environment : Environment
  terminal : Bool
  contains : String → m Bool
  read : String → m (Except Files.Fault String)
  makeDirectories : String → m (Except Files.Fault Unit)
  openToAppend : String → m (Except Files.Fault Unit)
  print : String → m Unit
  printError : String → m Unit
  dial : DatabaseConfig → m (Except Sql.Fault (Runner m))

namespace Host

variable {m : Type → Type} (host : Host m)

def colours : Bool := host.environment.colours host.terminal

end Host

end DeliveryCheck.Command

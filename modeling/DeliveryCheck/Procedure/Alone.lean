import DeliveryCheck.Procedure.Task

namespace DeliveryCheck

namespace Procedure

variable {σ α : Type} (setting : Setting σ) (limit : Option Instant)

def alone : Procedure α → World σ → Option α × World σ
  | .done result, world => (some result, world)
  | .enter mark next, world => alone next (world.note (.entered mark))
  | .pause length next, world =>
    let wake := world.now.after length
    if isCut limit wake then (none, world.cut limit) else alone (next wake) (world.moveTo wake)
  | .insert make next, world =>
    let (record, call, waiting) := world.beginInsert setting make
    let ended := world.now.after call.takes
    if isCut limit ended then (none, waiting.cut limit)
    else
      let (answer, world') := waiting.settle call ended (.inserted world.now ended world.issued record)
      alone (next ended answer) world'
  | .read id next, world =>
    let (call, waiting) := world.beginRead setting id
    let ended := world.now.after call.takes
    if isCut limit ended then (none, waiting.cut limit)
    else
      let (answer, world') := waiting.settle call ended (.read world.now ended id)
      alone (next ended answer) world'

end Procedure

end DeliveryCheck

import DeliveryCheck.Proofs.Procedure.Single
import DeliveryCheck.Proofs.Worker.Leads

namespace DeliveryCheck.Worker

variable {α : Type}

abbrev Lot (α : Type) : Type := (α → Prop) × Option Nat

def Lot.Apart (one other : Lot α) : Prop := ∀ m n, one.2 = some m → other.2 = some n → m ≠ n

/-- Tasks that own different identities on a store with room for those that own none yet, and for more. -/
structure Shares (script : Script) (wall : Instant → Timestamp) (identity : Nat → Identity)
    (first top : Nat) (lots : List (Lot α)) (tasks : List (Task State α)) (world : World State)
    (spare : Nat) : Prop where
  vacant : Vacant identity first top world (lots.countP (·.2.isNone) + spare)
  keep : List.Forall₂
    (fun lot task => Keeps script wall identity first top world.state lot.1 lot.2 task) lots tasks
  issued : ∀ lot ∈ lots, ∀ number, lot.2 = some number → first ≤ number ∧ number < world.issued
  apart : lots.Pairwise Lot.Apart

section

variable {script : Script} {wall : Instant → Timestamp} {identity : Nat → Identity} {first top : Nat}
  {lots : List (Lot α)} {tasks before rest : List (Task State α)} {task : Task State α}
  {world : World State} {spare : Nat}

theorem Shares.moveTo (shares : Shares script wall identity first top lots tasks world spare)
    (now : Instant) : Shares script wall identity first top lots tasks (world.moveTo now) spare :=
  let vacant := shares.vacant
  ⟨⟨vacant.reachable, vacant.sound, vacant.begun, vacant.room, vacant.unknown⟩, shares.keep,
    shares.issued, shares.apart⟩

theorem countP_middle (earlier others : List (Lot α)) (lot : Lot α) (spare : Nat) :
    (earlier ++ lot :: others).countP (·.2.isNone) + spare =
      (if lot.2.isNone then 1 else 0) + ((earlier ++ others).countP (·.2.isNone) + spare) := by
  rw [List.countP_append, List.countP_append, List.countP_cons]
  omega

theorem frame_all {after : State}
    (keep : List.Forall₂
      (fun lot task => Keeps script wall identity first top world.state lot.1 lot.2 task) lots tasks)
    (same : ∀ lot ∈ lots, ∀ number, lot.2 = some number →
      after.find? (identity number).id = world.state.find? (identity number).id) :
    List.Forall₂ (fun lot task => Keeps script wall identity first top after lot.1 lot.2 task) lots
      tasks :=
  ((List.forall₂_and_left lots tasks).mpr ⟨same, keep⟩).imp fun _ _ ⟨same, keeps⟩ =>
    keeps.frame same

theorem Shares.step (unlimited : script.readBudget = none)
    (distinct : Distinct identity first top)
    (shares : Shares script wall identity first top lots (before ++ task :: rest) world spare)
    (wakes : task.wake? = some world.now) :
    ∃ after : List (Lot α), after.map Prod.fst = lots.map Prod.fst ∧
      Shares script wall identity first top after
        (before ++ (task.step ⟨store script wall, identity, wall⟩ world).1 :: rest)
        (task.step ⟨store script wall, identity, wall⟩ world).2 spare := by
  obtain ⟨vacant, keep, issued, apart⟩ := shares
  obtain ⟨earlier, lot, others, rfl, front, held, behind⟩ := Task.forall₂_middle keep
  have symmetric : ∀ {one other : Lot α}, one.Apart other → other.Apart one :=
    fun differ m n owns other => (differ n m other owns).symm
  rw [List.pairwise_middle symmetric, List.pairwise_cons] at apart
  obtain ⟨own, apart⟩ := apart
  rw [countP_middle] at vacant
  obtain ⟨owned, keeps, advances⟩ := held.step unlimited wakes vacant fun unborn => by
    simp only [unborn, Option.isNone_none, if_true]
    omega
  rw [List.forall_mem_append, List.forall_mem_cons] at issued
  obtain ⟨ahead, old, beyond⟩ := issued
  have older := List.forall_mem_append.mpr ⟨ahead, beyond⟩
  have differ : ∀ other ∈ earlier ++ others, ∀ m n, owned = some m → other.2 = some n → m ≠ n := by
    intro other member m n owns theirs
    exact advances.apart (older other member n theirs).2
      (fun number mine => own other member number n mine theirs) m owns
  have renewed : ∀ other ∈ earlier ++ others, ∀ number, other.2 = some number → first ≤ number ∧
      number < (task.step ⟨store script wall, identity, wall⟩ world).2.issued :=
    fun other member number theirs => (older other member number theirs).imp_right
      fun before => Nat.lt_of_lt_of_le before advances.issued_le
  have newer := advances.owned_lt vacant.begun old
  have vacant := advances.vacant distinct old vacant
  have below {number : Nat}
      (before : number < (task.step ⟨store script wall, identity, wall⟩ world).2.issued) :
      number < top :=
    Nat.lt_of_lt_of_le before (Nat.le_trans (Nat.le_add_right ..) vacant.room)
  -- no other task owns the entry that may have changed
  have framed : ∀ other ∈ earlier ++ others, ∀ number, other.2 = some number →
      (task.step ⟨store script wall, identity, wall⟩ world).2.state.find? (identity number).id =
        world.state.find? (identity number).id := by
    intro other member number theirs
    obtain ⟨begun, before⟩ := renewed other member number theirs
    exact advances.find?_eq distinct (fun mine owns => (newer mine owns).imp_right below) begun
      (below before) fun mine owns => differ other member mine number owns theirs
  obtain ⟨framedFront, framedBehind⟩ := List.forall_mem_append.mp framed
  obtain ⟨renewedFront, renewedBehind⟩ := List.forall_mem_append.mp renewed
  refine ⟨earlier ++ (lot.1, owned) :: others, by simp, ?_, ?_, ?_, ?_⟩
  · rw [countP_middle]
    exact vacant
  · exact List.rel_append (frame_all front framedFront) (.cons keeps (frame_all behind framedBehind))
  · exact List.forall_mem_append.mpr
      ⟨renewedFront, List.forall_mem_cons.mpr ⟨newer, renewedBehind⟩⟩
  · rw [List.pairwise_middle symmetric, List.pairwise_cons]
    exact ⟨differ, apart⟩

theorem Shares.together (unlimited : script.readBudget = none)
    (distinct : Distinct identity first top)
    (shares : Shares script wall identity first top lots tasks world spare) :
    ∃ ends after,
      Task.together ⟨store script wall, identity, wall⟩ none tasks world = (some ends, after) ∧
        List.Forall₂ (fun goal result => goal result) (lots.map Prod.fst) ends ∧
        Vacant identity first top after spare := by
  induction tasks, world using Task.together_induct ⟨store script wall, identity, wall⟩ none
    generalizing lots with
  | finished tasks world waitless =>
    have reached : List.Forall₂ (fun lot answer => ∀ result, answer = some result → lot.1 result)
        lots (tasks.map Task.result?) :=
      List.forall₂_map_right_iff.mpr (shares.keep.imp fun _ _ keeps => keeps.reached)
    rw [Task.finished_of_soonest waitless, List.forall₂_map_right_iff] at reached
    exact ⟨_, world, rfl,
      List.forall₂_map_left_iff.mpr (reached.imp fun _ result meets => meets result rfl),
      shares.vacant.fewer (Nat.le_add_left ..)⟩
  | cut tasks world wake found late => cases late
  | stepped before task rest world wake run found _ wakes turn ih =>
    obtain ⟨after, same, onward⟩ := (shares.moveTo wake).step unlimited distinct wakes
    obtain ⟨ends, later, settles, reached, vacant⟩ := ih onward
    exact ⟨ends, later, settles, same ▸ reached, vacant⟩

theorem together_leads (unlimited : script.readBudget = none) (distinct : Distinct identity first top)
    {goals : List (α → Prop)} {procedures : List (Procedure α)}
    (leads : List.Forall₂ (fun procedure goal => ∀ number, first ≤ number → number < top →
      Leads script wall (identity number) goal procedure world.now none) procedures goals)
    (vacant : Vacant identity first top world (procedures.length + spare)) :
    ∃ ends after,
      Task.together ⟨store script wall, identity, wall⟩ none
          (procedures.map (Task.ready world.now)) world = (some ends, after) ∧
        List.Forall₂ (fun goal result => goal result) goals ends ∧
        Vacant identity first top after spare := by
  let lots : List (Lot α) := goals.map (·, none)
  have unborn : ∀ lot ∈ lots, lot.2 = none := by simp [lots]
  have count : lots.countP (·.2.isNone) = procedures.length := by
    rw [leads.length_eq, List.countP_eq_length.mpr fun lot member => by simp [unborn lot member],
      List.length_map]
  have shares : Shares script wall identity first top lots (procedures.map (Task.ready world.now)) world
      spare :=
    { vacant := by rw [count]; exact vacant
      keep := List.forall₂_map_left_iff.mpr (List.forall₂_map_right_iff.mpr
        (leads.imp fun _ _ => .unborn).flip)
      issued := fun lot member number owns => by simp [unborn lot member] at owns
      apart := List.pairwise_iff_forall_sublist.mpr fun sub m n owns _ => by
        simp [unborn _ (sub.subset List.mem_cons_self)] at owns }
  obtain ⟨ends, after, settles, reached, vacant⟩ := shares.together unlimited distinct
  rw [List.map_map] at reached
  exact ⟨ends, after, settles, by simpa using reached, vacant⟩

theorem alone_leads (unlimited : script.readBudget = none) (distinct : Distinct identity first top)
    {goal : α → Prop} {procedure : Procedure α}
    (leads : ∀ number, first ≤ number → number < top →
      Leads script wall (identity number) goal procedure world.now none)
    (vacant : Vacant identity first top world (1 + spare)) :
    ∃ result after,
      procedure.alone ⟨store script wall, identity, wall⟩ none world = (some result, after) ∧
        goal result ∧ Vacant identity first top after spare := by
  have single : List.Forall₂ (fun procedure goal => ∀ number, first ≤ number → number < top →
      Leads script wall (identity number) goal procedure world.now none) [procedure] [goal] :=
    .cons leads .nil
  obtain ⟨ends, after, settles, reached, vacant⟩ := together_leads unlimited distinct single vacant
  obtain ⟨result, _, meets, onward, rfl⟩ := List.forall₂_cons_left_iff.mp reached
  rw [List.forall₂_nil_left_iff.mp onward] at settles
  have same := (Task.together_single _ procedure world).symm.trans settles
  obtain ⟨other, ended⟩ := Procedure.alone_unlimited ⟨store script wall, identity, wall⟩ procedure world
  obtain ⟨single, later⟩ := Prod.mk.inj same
  rw [ended] at single
  cases single
  exact ⟨_, after, Prod.ext ended later, meets, vacant⟩

end

end DeliveryCheck.Worker

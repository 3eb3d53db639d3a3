namespace DeliveryCheck

/-- A list is made up of others: its first element is the first one of some of them, and so on. -/
inductive Interleaved {β : Type} : List (List β) → List β → Prop where
  | done {stories} (empty : ∀ story ∈ stories, story = []) : Interleaved stories []
  | step {before own after event rest} (others : Interleaved (before ++ own :: after) rest) :
    Interleaved (before ++ (event :: own) :: after) (event :: rest)

namespace Interleaved

variable {β : Type} {stories before after : List (List β)} {own told : List β}

theorem prepend (whole : Interleaved (before ++ own :: after) told) (events : List β) :
    Interleaved (before ++ (events ++ own) :: after) (events ++ told) := by
  induction events with
  | nil => exact whole
  | cons event rest ih => exact .step ih

theorem sublist (whole : Interleaved stories told) : ∀ story ∈ stories, story.Sublist told := by
  induction whole with
  | done empty =>
    intro story member
    cases empty story member
    exact List.nil_sublist []
  | @step before own after event rest others ih =>
    intro story member
    rcases List.mem_append.mp member with member | member
    · exact (ih story (List.mem_append_left _ member)).cons event
    · rcases List.mem_cons.mp member with rfl | member
      · exact (ih own (by simp)).cons_cons event
      · exact (ih story (by simp [member])).cons event

theorem perm (whole : Interleaved stories told) : told.Perm stories.flatten := by
  induction whole with
  | done empty => rw [List.flatten_eq_nil_iff.mpr empty]
  | @step before own after event rest others ih =>
    rw [List.flatten_append, List.flatten_cons] at ih ⊢
    exact (ih.cons event).trans List.perm_middle.symm

theorem mem_iff (whole : Interleaved stories told) {event : β} :
    event ∈ told ↔ ∃ story ∈ stories, event ∈ story := by
  rw [whole.perm.mem_iff, List.mem_flatten]

theorem countP_eq (whole : Interleaved (before ++ own :: after) told) (p : β → Bool) :
    told.countP p = before.flatten.countP p + (own.countP p + after.flatten.countP p) := by
  rw [whole.perm.countP_eq, List.flatten_append, List.flatten_cons, List.countP_append,
    List.countP_append]

theorem elsewhere (whole : Interleaved (before ++ own :: after) told) {p : β → Bool}
    (all : told.countP p ≤ own.countP p) : ∀ story ∈ before ++ after, ∀ event ∈ story, ¬ p event := by
  have counted := whole.countP_eq p
  have first : before.flatten.countP p = 0 := by omega
  have last : after.flatten.countP p = 0 := by omega
  rw [List.countP_eq_zero] at first last
  intro story listed event member
  rcases List.mem_append.mp listed with listed | listed
  · exact first event (List.mem_flatten_of_mem listed member)
  · exact last event (List.mem_flatten_of_mem listed member)

theorem filter_eq (whole : Interleaved (before ++ own :: after) told) {p : β → Bool}
    (elsewhere : ∀ story ∈ before ++ after, ∀ event ∈ story, ¬ p event) :
    told.filter p = own.filter p := by
  have first : before.flatten.countP p = 0 := by
    rw [List.countP_eq_zero]
    intro event member
    obtain ⟨story, listed, member⟩ := List.mem_flatten.mp member
    exact elsewhere story (List.mem_append_left _ listed) event member
  have last : after.flatten.countP p = 0 := by
    rw [List.countP_eq_zero]
    intro event member
    obtain ⟨story, listed, member⟩ := List.mem_flatten.mp member
    exact elsewhere story (List.mem_append_right _ listed) event member
  have counted := whole.countP_eq p
  rw [first, last, Nat.zero_add, Nat.add_zero, List.countP_eq_length_filter,
    List.countP_eq_length_filter] at counted
  have part := (whole.sublist own (by simp)).filter p
  exact (part.eq_of_length counted.symm).symm

theorem filter (p : β → Bool)
    (whole : Interleaved stories told) :
    Interleaved (stories.map (List.filter p)) (told.filter p) := by
  induction whole with
  | done empty =>
    refine .done fun story member => ?_
    obtain ⟨own, listed, rfl⟩ := List.mem_map.mp member
    rw [empty own listed, List.filter_nil]
  | @step before own after event rest _ ih =>
    rw [List.map_append, List.map_cons] at ih ⊢
    rw [List.filter_cons, List.filter_cons]
    split
    · exact .step ih
    · exact ih

theorem cons_nil (whole : Interleaved stories told) : Interleaved ([] :: stories) told := by
  induction whole with
  | done empty => exact .done (List.forall_mem_cons.mpr ⟨rfl, empty⟩)
  | @step before own after event rest _ ih =>
    have onward : Interleaved (([] :: before) ++ own :: after) rest := ih
    exact .step onward

theorem of_flatten (stories : List (List β)) :
    Interleaved stories stories.flatten := by
  induction stories with
  | nil => exact .done (by simp)
  | cons own rest ih =>
    have empty : Interleaved ([] ++ [] :: rest) rest.flatten := ih.cons_nil
    have whole := empty.prepend own
    rwa [List.append_nil] at whole

end Interleaved

end DeliveryCheck

import IrLink.Descriptor.Table
import Mathlib.Data.List.Induction
import Mathlib.Data.List.Nodup

/-!
# The unfolding of inherited members

An inherited member stands for the members that it overrides, which may be
inherited in turn.  Followed without any memory of what was met before, a
declared member unfolds to itself and an inherited one to the unfoldings of the
members that it overrides, one after another, with as many repetitions as there
are ways to a member.

The search of `DescriptorTable.visit` goes to no position twice, and so it also
skips an inherited member that a sibling led to before.  What it passes over
is already found by then: an inherited member is followed to its end before the
search goes on, and only positions before its own are met on the way.  Hence
the search finds the unfolding of a member without its repetitions.
-/

namespace IrLink

/-! ## Repetitions -/

section Repetitions

variable {α : Type _} [DecidableEq α]

/-- An item behind a list is a repetition if it occurs in the list. -/
theorem eraseDups_concat (items : List α) (item : α) :
    (items ++ [item]).eraseDups =
      if item ∈ items then items.eraseDups else items.eraseDups ++ [item] := by
  rw [List.eraseDups_append]
  by_cases inside : item ∈ items
  · simp [List.removeAll, inside]
  · simp [List.removeAll, inside, List.eraseDups_cons]

theorem nodup_eraseDups (items : List α) : items.eraseDups.Nodup := by
  induction items using List.reverseRecOn with
  | nil => exact .nil
  | append_singleton items item inductionHypothesis =>
    rw [eraseDups_concat]
    split
    · exact inductionHypothesis
    · rename_i fresh
      refine List.nodup_append.mpr ⟨inductionHypothesis, List.nodup_singleton item, ?_⟩
      rintro other inside last here rfl
      rw [List.mem_singleton.mp here, List.mem_eraseDups] at inside
      exact fresh inside

theorem eraseDups_of_nodup {items : List α} (distinct : items.Nodup) :
    items.eraseDups = items := by
  induction items using List.reverseRecOn with
  | nil => rfl
  | append_singleton items item inductionHypothesis =>
    obtain ⟨distinctBefore, -, apart⟩ := List.nodup_append.mp distinct
    have fresh : item ∉ items := fun repeated =>
      apart item repeated item (List.mem_singleton_self item) rfl
    rw [eraseDups_concat, if_neg fresh, inductionHypothesis distinctBefore]

/-- What stands in front may lose its repetitions first. -/
theorem eraseDups_eraseDups_append (items others : List α) :
    (items.eraseDups ++ others).eraseDups = (items ++ others).eraseDups := by
  have sameRest : others.removeAll items.eraseDups = others.removeAll items := by
    unfold List.removeAll
    refine List.filter_congr fun other _ => ?_
    simp
  rw [List.eraseDups_append, List.eraseDups_append, sameRest,
    eraseDups_of_nodup (nodup_eraseDups items)]

/-- What is all in front already adds nothing. -/
theorem eraseDups_append_of_subset {items others : List α} (inside : others ⊆ items) :
    (items ++ others).eraseDups = items.eraseDups := by
  have nothing : others.removeAll items = [] :=
    List.filter_eq_nil_iff.mpr fun other here => by simpa using inside here
  rw [List.eraseDups_append, nothing, List.eraseDups_nil, List.append_nil]

end Repetitions

namespace DescriptorTable

variable {table : DescriptorTable} {position bound : Nat} {members gathered further : List Nat}
  {walk after last : Walk} {descriptor other : Descriptor}

/-! ## Unfolding without memory -/

/-- The positions of the declared members that the member at a position unfolds
to, with all repetitions. -/
def unfolded (table : DescriptorTable) (position : Nat) : List Nat :=
  match _found : table.overridden? position with
  | none => [position]
  | some members => members.attach.flatMap fun member => unfolded table member.1
termination_by position
decreasing_by exact lt_of_mem_overridden? _found member.2

/-- The declared members that a descriptor unfolds to, with all repetitions: a
declared member unfolds to itself, an inherited one to the unfoldings of the
members that it overrides, one after another. -/
def unfolding (table : DescriptorTable) (descriptor : Descriptor) : List Descriptor :=
  match descriptor.overridden with
  | none => [descriptor]
  | some members => (members.flatMap table.unfolded).filterMap table.get?

theorem unfolded_of_none (declared : table.overridden? position = none) :
    table.unfolded position = [position] := by
  unfold unfolded
  split
  · rfl
  · rename_i found
    rw [declared] at found
    cases found

theorem unfolded_of_some (inherited : table.overridden? position = some members) :
    table.unfolded position = members.flatMap table.unfolded := by
  unfold unfolded
  split
  · rename_i found
    rw [inherited] at found
    cases found
  · rename_i found
    rw [inherited] at found
    cases found
    simp

theorem visit_of_mem (seen : position ∈ walk.seen) : table.visit position walk = walk := by
  unfold visit
  rw [if_pos seen]

theorem visit_of_none (unseen : position ∉ walk.seen)
    (declared : table.overridden? position = none) :
    table.visit position walk = ⟨position :: walk.seen, walk.found ++ [position]⟩ := by
  unfold visit
  rw [if_neg unseen]
  split
  · rfl
  · rename_i found
    rw [declared] at found
    cases found

theorem visit_of_some (unseen : position ∉ walk.seen)
    (inherited : table.overridden? position = some members) :
    table.visit position walk =
      members.foldl (fun walk member => table.visit member walk)
        ⟨position :: walk.seen, walk.found⟩ := by
  conv => lhs; unfold visit
  rw [if_neg unseen]
  split
  · rename_i found
    rw [inherited] at found
    cases found
  · rename_i found
    rw [inherited] at found
    cases found
    exact List.foldl_attach (l := members) (f := fun walk member => table.visit member walk)

/-! ## The search with memory -/

/-- A search in which every position below a bound that was seen has been
followed to its end. -/
structure Walk.Explored (table : DescriptorTable) (bound : Nat) (walk : Walk) : Prop where
  distinct : walk.found.Nodup
  seen : walk.found ⊆ walk.seen
  complete : ∀ position ∈ walk.seen, position < bound →
    table.unfolded position ⊆ walk.found

/-- A search goes on to another, and gathers some positions on the way.  What
it sees for the first time is followed to its end. -/
structure Walk.Gathers (table : DescriptorTable) (gathered : List Nat) (walk after : Walk) :
    Prop where
  found : after.found = (walk.found ++ gathered).eraseDups
  seen : after.found ⊆ after.seen
  complete : ∀ position ∈ after.seen,
    position ∈ walk.seen ∨ table.unfolded position ⊆ after.found

namespace Walk

theorem Gathers.subset (gathers : walk.Gathers table gathered after) :
    walk.found ⊆ after.found := fun position inside => by
  rw [gathers.found, List.mem_eraseDups]
  exact List.mem_append_left gathered inside

theorem Gathers.gathered_subset (gathers : walk.Gathers table gathered after) :
    gathered ⊆ after.found := fun position inside => by
  rw [gathers.found, List.mem_eraseDups]
  exact List.mem_append_right walk.found inside

/-- A search that is explored up to a bound stays so as it goes on. -/
theorem Explored.gathers (explored : walk.Explored table bound)
    (gathers : walk.Gathers table gathered after) : after.Explored table bound where
  distinct := gathers.found ▸ nodup_eraseDups _
  seen := gathers.seen
  complete position inside below := by
    rcases gathers.complete position inside with before | followed
    · exact List.Subset.trans (explored.complete position before below) gathers.subset
    · exact followed

/-- A search in which a position counts as seen that is not below the bound. -/
theorem Explored.enter (explored : walk.Explored table bound) (above : bound ≤ position) :
    Explored table bound ⟨position :: walk.seen, walk.found⟩ where
  distinct := explored.distinct
  seen := List.Subset.trans explored.seen (List.subset_cons_self position walk.seen)
  complete other inside below := by
    rcases List.mem_cons.mp inside with rfl | before
    · omega
    · exact explored.complete other before below

theorem Explored.mono (explored : walk.Explored table bound) (lower : position ≤ bound) :
    walk.Explored table position where
  distinct := explored.distinct
  seen := explored.seen
  complete other inside below := explored.complete other inside (by omega)

/-- A search that stays where it is gathers what it has found already. -/
theorem Explored.stay (explored : walk.Explored table bound) (known : gathered ⊆ walk.found) :
    walk.Gathers table gathered walk where
  found := by
    rw [eraseDups_append_of_subset known, eraseDups_of_nodup explored.distinct]
  seen := explored.seen
  complete _ inside := .inl inside

/-- What two parts of a search gather, one after the other. -/
theorem Gathers.trans (first : walk.Gathers table gathered after)
    (second : after.Gathers table further last) :
    walk.Gathers table (gathered ++ further) last where
  found := by
    rw [second.found, first.found, eraseDups_eraseDups_append, List.append_assoc]
  seen := second.seen
  complete position inside := by
    rcases second.complete position inside with before | followed
    · exact (first.complete position before).imp_right
        fun subset => List.Subset.trans subset second.subset
    · exact .inr followed

/-- Members of an explored part are gathered one after another, if each of them
is. -/
theorem Explored.gathers_members
    (each : ∀ member ∈ members, ∀ walk : Walk, walk.Explored table bound →
      walk.Gathers table (table.unfolded member) (table.visit member walk))
    (explored : walk.Explored table bound) :
    walk.Gathers table (members.flatMap table.unfolded)
      (members.foldl (fun walk member => table.visit member walk) walk) := by
  induction members generalizing walk with
  | nil => exact explored.stay (List.nil_subset walk.found)
  | cons member members inductionHypothesis =>
    have first := each member List.mem_cons_self walk explored
    have others := inductionHypothesis
      (fun other inside => each other (List.mem_cons_of_mem member inside))
      (explored.gathers first)
    exact first.trans others

end Walk

/-- The search at a position gathers its unfolding, if all that was seen up to
there is followed to its end. -/
theorem gathers_visit (position : Nat) {walk : Walk}
    (explored : walk.Explored table (position + 1)) :
    walk.Gathers table (table.unfolded position) (table.visit position walk) := by
  induction position using Nat.strongRecOn generalizing walk with
  | _ position inductionHypothesis =>
    by_cases seen : position ∈ walk.seen
    · rw [visit_of_mem seen]
      exact explored.stay (explored.complete position seen (Nat.lt_succ_self position))
    · cases follows : table.overridden? position with
      | none =>
        have fresh : position ∉ walk.found := fun found => seen (explored.seen found)
        rw [visit_of_none seen follows, unfolded_of_none follows]
        refine ⟨?_, ?_, fun other inside => ?_⟩
        · rw [eraseDups_concat, if_neg fresh, eraseDups_of_nodup explored.distinct]
        · rintro other inside
          rcases List.mem_append.mp inside with before | here
          · exact List.mem_cons_of_mem position (explored.seen before)
          · exact List.mem_cons.mpr (.inl (List.mem_singleton.mp here))
        · rcases List.mem_cons.mp inside with rfl | before
          · rw [unfolded_of_none follows]
            exact .inr (List.subset_append_right walk.found [other])
          · exact .inl before
      | some members =>
        have each : ∀ member ∈ members, ∀ walk : Walk, walk.Explored table position →
            walk.Gathers table (table.unfolded member) (table.visit member walk) := by
          intro member inside walk explored
          have before := lt_of_mem_overridden? follows inside
          exact inductionHypothesis member before (explored.mono before)
        have gathers := ((explored.mono (Nat.le_succ position)).enter
          (Nat.le_refl position)).gathers_members each
        rw [visit_of_some seen follows]
        rw [← unfolded_of_some follows] at gathers
        refine ⟨gathers.found, gathers.seen, fun other inside => ?_⟩
        rcases gathers.complete other inside with entered | followed
        · rcases List.mem_cons.mp entered with rfl | before
          · exact .inr gathers.gathered_subset
          · exact .inl before
        · exact .inr followed

/-- The search finds the unfolding of a position without its repetitions. -/
theorem realPositions_eq (table : DescriptorTable) (position : Nat) :
    table.realPositions position = (table.unfolded position).eraseDups := by
  have start : Walk.Explored table (position + 1) ⟨[], []⟩ :=
    ⟨.nil, List.Subset.refl _, by rintro _ ⟨⟩⟩
  exact (gathers_visit position start).found

/-! ## Descriptors for positions -/

/-- A table knows a descriptor if it holds it at the position of its identity.
What has no position is known if it is declared. -/
def Knows (table : DescriptorTable) (descriptor : Descriptor) : Prop :=
  match descriptor.id with
  | .declared position => table.get? position = some descriptor
  | _ => descriptor.overridden = none

theorem id_of_get? (held : table.get? position = some descriptor) :
    descriptor.id = .declared position := by
  obtain ⟨inside, rfl⟩ := Array.getElem?_eq_some_iff.mp held
  exact table.id_eq position inside

theorem overridden?_of_get? (held : table.get? position = some descriptor) :
    table.overridden? position = descriptor.overridden := by
  simp [overridden?, held]

theorem unfolding_of_none (declared : descriptor.overridden = none) :
    table.unfolding descriptor = [descriptor] := by
  simp [unfolding, declared]

theorem unfolding_of_get? (held : table.get? position = some descriptor) :
    table.unfolding descriptor = (table.unfolded position).filterMap table.get? := by
  have overrides := overridden?_of_get? held
  unfold unfolding
  cases follows : descriptor.overridden with
  | none => simp [unfolded_of_none (overrides.trans follows), held]
  | some members => rw [unfolded_of_some (overrides.trans follows)]

theorem filterMap_unfolded (table : DescriptorTable) (position : Nat) :
    (table.unfolded position).filterMap table.get? =
      (table.get? position).toList.flatMap table.unfolding := by
  cases held : table.get? position with
  | none =>
    have declared : table.overridden? position = none := by simp [overridden?, held]
    simp [unfolded_of_none declared, held]
  | some descriptor => simp [unfolding_of_get? held]

/-- An inherited member unfolds to the unfoldings of the members that it
overrides. -/
theorem unfolding_of_some (inherited : descriptor.overridden = some members) :
    table.unfolding descriptor = (members.filterMap table.get?).flatMap table.unfolding := by
  have gathered : table.unfolding descriptor =
      (members.flatMap table.unfolded).filterMap table.get? := by
    simp [unfolding, inherited]
  rw [gathered, List.filterMap_flatMap, List.filterMap_eq_flatMap_toList, List.flatMap_assoc]
  exact congrArg members.flatMap (funext fun member => filterMap_unfolded table member)

/-- What a table knows is held by it, or stands for itself alone. -/
theorem Knows.held_or_declared (known : table.Knows descriptor) :
    (∃ position, table.get? position = some descriptor) ∨
      descriptor.overridden = none ∧ table.realMembers descriptor = [descriptor] := by
  unfold Knows at known
  unfold realMembers
  cases identity : descriptor.id with
  | declared position =>
    rw [identity] at known
    exact .inl ⟨position, known⟩
  | builtin number =>
    rw [identity] at known
    exact .inr ⟨known, rfl⟩
  | placeholder kind =>
    rw [identity] at known
    exact .inr ⟨known, rfl⟩

/-- Two descriptors count as one if they have the same identity. -/
def sameIdentity (later earlier : Descriptor) : Bool :=
  later.id == earlier.id

/-- Positions without repetitions are those of descriptors without
repetitions. -/
theorem filterMap_eraseDups (table : DescriptorTable) (positions : List Nat) :
    positions.eraseDups.filterMap table.get? =
      (positions.filterMap table.get?).eraseDupsBy sameIdentity := by
  match positions with
  | [] => rfl
  | position :: positions =>
    have shorter := List.length_filter_le (fun other => !other == position) positions
    have others := filterMap_eraseDups table (positions.filter fun other => !other == position)
    rw [List.eraseDups_cons]
    cases held : table.get? position with
    | none =>
      have unheld : (positions.filter fun other => !other == position).filterMap table.get? =
          positions.filterMap table.get? := by
        rw [List.filterMap_filter]
        refine List.filterMap_congr fun other _ => ?_
        by_cases same : other = position
        · simp [same, held]
        · simp [same]
      rw [List.filterMap_cons_none held, List.filterMap_cons_none held, others, unheld]
    | some descriptor =>
      have apart : (positions.filter fun other => !other == position).filterMap table.get? =
          (positions.filterMap table.get?).filter
            fun other => decide (sameIdentity other descriptor = false) := by
        rw [List.filterMap_filter, List.filter_filterMap]
        refine List.filterMap_congr fun other _ => ?_
        cases found : table.get? other with
        | none => simp
        | some entry =>
          simp [sameIdentity, id_of_get? held, id_of_get? found, Option.filter]
      rw [List.filterMap_cons_some held, List.filterMap_cons_some held,
        List.eraseDupsBy_cons, others, apart]
termination_by positions.length
decreasing_by simp; omega

/-- The descriptors at positions without repetitions have identities without
repetitions. -/
theorem nodup_ids {positions : List Nat} (distinct : positions.Nodup) :
    ((positions.filterMap table.get?).map (·.id)).Nodup := by
  rw [List.map_filterMap]
  refine distinct.filterMap fun position other id first second => ?_
  obtain ⟨descriptor, held, rfl⟩ := Option.map_eq_some_iff.mp first
  obtain ⟨entry, found, same⟩ := Option.map_eq_some_iff.mp second
  rw [id_of_get? held, id_of_get? found] at same
  exact (DescriptorId.declared.inj same).symm

/-! ## What is reached -/

/-- A declared member is reached from a descriptor through inherited members
only. -/
inductive Reaches (table : DescriptorTable) : Descriptor → Descriptor → Prop
  | declared {descriptor : Descriptor} (declared : descriptor.overridden = none) :
    Reaches table descriptor descriptor
  | inherited {descriptor next member : Descriptor} {members : List Nat} {position : Nat}
    (overrides : descriptor.overridden = some members) (inside : position ∈ members)
    (held : table.get? position = some next) (reaches : Reaches table next member) :
    Reaches table descriptor member

theorem mem_unfolding_of_none {member : Descriptor} (follows : descriptor.overridden = none) :
    member ∈ table.unfolding descriptor ↔ table.Reaches descriptor member := by
  rw [unfolding_of_none follows, List.mem_singleton]
  constructor
  · rintro rfl
    exact .declared follows
  · intro reaches
    cases reaches with
    | declared _ => rfl
    | inherited overrides _ _ _ => cases follows.symm.trans overrides

theorem mem_unfolding_of_get? (position : Nat) {descriptor member : Descriptor}
    (held : table.get? position = some descriptor) :
    member ∈ table.unfolding descriptor ↔ table.Reaches descriptor member := by
  induction position using Nat.strongRecOn generalizing descriptor with
  | _ position inductionHypothesis =>
    have overrides := overridden?_of_get? held
    cases follows : descriptor.overridden with
    | none => exact mem_unfolding_of_none follows
    | some members =>
      rw [follows] at overrides
      rw [unfolding_of_some follows, List.mem_flatMap]
      constructor
      · rintro ⟨next, listed, unfolds⟩
        obtain ⟨below, inside, heldNext⟩ := List.mem_filterMap.mp listed
        have before := lt_of_mem_overridden? overrides inside
        exact .inherited follows inside heldNext
          ((inductionHypothesis below before heldNext).mp unfolds)
      · intro reaches
        cases reaches with
        | declared declared => cases follows.symm.trans declared
        | @inherited _ next _ _ below inherits inside heldNext reaches =>
          cases follows.symm.trans inherits
          have before := lt_of_mem_overridden? overrides inside
          exact ⟨next, List.mem_filterMap.mpr ⟨below, inside, heldNext⟩,
            (inductionHypothesis below before heldNext).mpr reaches⟩

theorem mem_unfolding (known : table.Knows descriptor) :
    other ∈ table.unfolding descriptor ↔ table.Reaches descriptor other := by
  rcases known.held_or_declared with ⟨position, held⟩ | ⟨declared, -⟩
  · exact mem_unfolding_of_get? position held
  · exact mem_unfolding_of_none declared

theorem realMembers_of_get? (held : table.get? position = some descriptor) :
    table.realMembers descriptor =
      (table.unfolded position).eraseDups.filterMap table.get? := by
  rw [← realPositions_eq]
  simp [realMembers, id_of_get? held]

theorem realMembers_eq (known : table.Knows descriptor) :
    table.realMembers descriptor =
      (table.unfolding descriptor).eraseDupsBy sameIdentity := by
  rcases known.held_or_declared with ⟨position, held⟩ | ⟨declared, itself⟩
  · rw [realMembers_of_get? held, filterMap_eraseDups, unfolding_of_get? held]
  · rw [itself, unfolding_of_none declared]
    rfl

theorem nodup_realMembers (known : table.Knows descriptor) :
    ((table.realMembers descriptor).map (·.id)).Nodup := by
  rcases known.held_or_declared with ⟨position, held⟩ | ⟨-, itself⟩
  · rw [realMembers_of_get? held]
    exact nodup_ids (nodup_eraseDups _)
  · rw [itself]
    exact List.nodup_singleton _

theorem mem_realMembers (known : table.Knows descriptor) :
    other ∈ table.realMembers descriptor ↔ other ∈ table.unfolding descriptor := by
  rcases known.held_or_declared with ⟨position, held⟩ | ⟨declared, itself⟩
  · simp [realMembers_of_get? held, unfolding_of_get? held]
  · rw [itself, unfolding_of_none declared]

/-- What a descriptor stands for is its unfolding without the repetitions of an
identity.  So it is what the descriptor reaches through inherited members only,
each once. -/
theorem realMembers_correct (known : table.Knows descriptor) :
    table.realMembers descriptor =
        (table.unfolding descriptor).eraseDupsBy sameIdentity ∧
      ((table.realMembers descriptor).map (·.id)).Nodup ∧
      ∀ member, member ∈ table.realMembers descriptor ↔ table.Reaches descriptor member :=
  ⟨realMembers_eq known, nodup_realMembers known,
    fun _ => (mem_realMembers known).trans (mem_unfolding known)⟩

/-- Two functions and three members that inherit them, the last of them along
several ways. -/
def diamond : DescriptorTable where
  entries := #[
    ⟨.declared 0, .function, "f", some 1, none, none, none⟩,
    ⟨.declared 1, .function, "g", some 2, none, none, none⟩,
    ⟨.declared 2, .function, "f", none, some [1, 0], none, none⟩,
    ⟨.declared 3, .function, "f", none, some [0, 2], none, none⟩,
    ⟨.declared 4, .function, "f", none, some [2, 3, 1], none, none⟩]
  id_eq := by decide
  mentions_lt := by decide

/-- The last member of the diamond unfolds to six positions, and stands for two
members. -/
theorem realMembers_correct_diamond :
    ∃ top, diamond.get? 4 = some top ∧ diamond.Knows top ∧
      (diamond.unfolding top).map (·.id) = [1, 0, 0, 1, 0, 1].map .declared ∧
      (diamond.realMembers top).map (·.id) = [1, 0].map .declared ∧
      (diamond.realMembers top = (diamond.unfolding top).eraseDupsBy sameIdentity ∧
        ((diamond.realMembers top).map (·.id)).Nodup ∧
        ∀ member, member ∈ diamond.realMembers top ↔ diamond.Reaches top member) :=
  ⟨_, rfl, rfl, by cbv, by cbv, realMembers_correct rfl⟩

end DescriptorTable

end IrLink

import IrLink.Proofs.Universe.Reference

/-!
# References to default constructors

A reference to the default constructor of a class goes through the members and the
constructors of the class as every reference by index does, and means the first candidate
that answers it.  Constructors answer it whatever their index is, and everything else only by
its index.  So it finds the first constructor if nothing in front of that one has the index
that the reference happens to carry (`Decode.finds_default_constructor`).  Otherwise the first
such candidate captures the reference, and the constructor is not found
(`Decode.default_constructor_captured`).
-/

namespace IrLink

namespace Universe

variable {world : Universe} {reference : DescriptorReference} {candidate : Descriptor}

/-- A candidate has the index of a reference, by itself or by a declared member that it stands
for. -/
def Captures (world : Universe) (reference : DescriptorReference) (candidate : Descriptor) :
    Prop :=
  ∃ member ∈ world.standsFor reference candidate, member.index = some reference.uniqueId.index

/-- A reference to the default constructor is answered by constructors, and by what has its
index. -/
theorem answers_iff_of_default (asked : reference.isDefaultConstructor = true) :
    Answers world reference candidate ↔
      candidate.kind = .constructor ∨ Captures world reference candidate := by
  rw [Answers, Captures]
  exact or_congr_left (and_iff_right asked)

end Universe

namespace Decode

variable {environment : Environment} {state : State} {reference : DescriptorReference}
  {candidates before after : List Descriptor} {constructor captor : Descriptor}
  {outcome : Option Descriptor}

/-- The first candidate that answers a reference settles how looking the reference up ends. -/
theorem resolveReference_of_first (among : environment.world.Candidates reference candidates)
    (first : FirstWith (environment.world.Answers reference) candidates captor)
    (access : environment.world.Access reference captor outcome) :
    resolveReference reference environment state =
      outcome.elim (.error (.unresolvedReference reference) state) (.ok · state) := by
  rw [resolveReference_eq, Universe.means_iff.mp (.candidate among first access)]

variable (asked : reference.isDefaultConstructor = true)
  (among : environment.world.Candidates reference (before ++ constructor :: after))

include asked among

/-- The first constructor is found if nothing in front of it has the index of the reference. -/
theorem resolveReference_of_uncaptured (isConstructor : constructor.kind = .constructor)
    (others : ∀ candidate ∈ before, candidate.kind ≠ .constructor)
    (free : ∀ candidate ∈ before, ¬ environment.world.Captures reference candidate) :
    resolveReference reference environment state = .ok constructor state := by
  have first : FirstWith (environment.world.Answers reference) (before ++ constructor :: after)
      constructor := by
    refine ⟨before, after, rfl, .inl ⟨asked, isConstructor⟩, fun candidate earlier => ?_⟩
    rw [Universe.answers_iff_of_default asked, not_or]
    exact ⟨others candidate earlier, free candidate earlier⟩
  exact resolveReference_of_first among first (.itself fun property => by
    simp [isConstructor] at property)

/-- The first candidate in front of the constructors that has the index of the reference is
found in their place. -/
theorem resolveReference_of_captured
    (others : ∀ candidate ∈ before, candidate.kind ≠ .constructor)
    (captured : FirstWith (environment.world.Captures reference) before captor)
    (access : environment.world.Access reference captor outcome) :
    resolveReference reference environment state =
      outcome.elim (.error (.unresolvedReference reference) state) (.ok · state) := by
  obtain ⟨earlier, later, rfl, captures, free⟩ := captured
  refine resolveReference_of_first among ⟨earlier, later ++ constructor :: after, ?_, ?_, ?_⟩ access
  · rw [List.append_assoc, List.cons_append]
  · exact (Universe.answers_iff_of_default asked).mpr (.inr captures)
  · intro candidate inside
    rw [Universe.answers_iff_of_default asked, not_or]
    exact ⟨others candidate (List.mem_append_left _ inside), free candidate inside⟩

omit asked among

/-- Take a class with a constructor among its members and constructors, and a reference to its
default constructor.  If no candidate in front of the first constructor has the index of the
reference, by itself or by a declared member that it stands for, then this constructor is
found, whatever its own index is, and whatever stands behind it.  Otherwise the first candidate
with that index is found instead: the accessor that the reference asks for if the candidate is
a property, and no entity at all if there is no such accessor. -/
theorem finds_default_constructor (environment : Environment) (state : State)
    (reference : DescriptorReference) (scope : ClassScope) (named : reference.className ≠ "")
    (found : environment.world.findClass? reference.package reference.className = some scope)
    (asked : reference.isDefaultConstructor = true) (notEntry : reference.isEnumEntry = false)
    (notSpecial : reference.isEnumSpecial = false)
    (constructed : ∃ candidate ∈ scope.members ++ scope.constructors,
      candidate.kind = .constructor) :
    ∃ before constructor after,
      scope.members ++ scope.constructors = before ++ constructor :: after ∧
        constructor.kind = .constructor ∧
        (∀ candidate ∈ before, candidate.kind ≠ .constructor) ∧
        ((∀ candidate ∈ before, ¬ environment.world.Captures reference candidate) →
          resolveReference reference environment state = .ok constructor state) ∧
        ∀ captor, FirstWith (environment.world.Captures reference) before captor →
          ∀ outcome, environment.world.Access reference captor outcome →
            resolveReference reference environment state =
              outcome.elim (.error (.unresolvedReference reference) state) (.ok · state) := by
  have among : environment.world.Candidates reference (scope.members ++ scope.constructors) :=
    .klass named found notEntry notSpecial
  rcases FirstWith.exists_or_none (·.kind = .constructor) (scope.members ++ scope.constructors) with
    ⟨constructor, before, after, split, isConstructor, others⟩ | nowhere
  · rw [split] at among
    exact ⟨before, constructor, after, split, isConstructor, others,
      resolveReference_of_uncaptured asked among isConstructor others,
      fun captor captured outcome => resolveReference_of_captured asked among others captured⟩
  · obtain ⟨candidate, inside, isConstructor⟩ := constructed
    exact absurd isConstructor (nowhere candidate inside)

end Decode

/-! ## A class with a member of index zero -/

namespace Descriptor

/-- The class of points. -/
def point : Descriptor :=
  { id := .declared 0, kind := .klass, name := "Point", index := some 5 }

/-- A member of the class of points, with the index zero. -/
def pointLength : Descriptor :=
  { id := .declared 1, kind := .function, name := "length", index := some 0 }

/-- The constructor of points. -/
def pointInit : Descriptor :=
  { id := .declared 2, kind := .constructor, name := "<init>", index := some 3 }

end Descriptor

/-- A universe that knows the class of points. -/
def Universe.ofPoint : Universe :=
  let table := [Descriptor.point, .pointLength, .pointInit].foldl
    (fun table descriptor => (table.add? descriptor).getD table) DescriptorTable.empty
  { name := "m", table
    classes := [(("p", "Point"), ⟨.point, [.pointLength], [.pointInit], []⟩)] }

/-- A reference to the default constructor of points, with the given index. -/
def DescriptorReference.toPoint (index : UInt64) : DescriptorReference :=
  ⟨"p", "Point", "<init>", ⟨index, false⟩, false, false, false, true, false, false⟩

/-- A reference whose index no member has finds the constructor, although that one has another
index. -/
theorem Decode.finds_default_constructor_point :
    (∃ candidate ∈ [Descriptor.pointLength, .pointInit], candidate.kind = .constructor) ∧
      Descriptor.pointInit.index ≠ some 4 ∧
      resolveReference (.toPoint 4) ⟨.ofPoint, {}⟩ .initial = .ok .pointInit .initial := by
  have constructed : ∃ candidate ∈ [Descriptor.pointLength, .pointInit],
      candidate.kind = .constructor := ⟨.pointInit, by decide, rfl⟩
  obtain ⟨before, constructor, after, split, isConstructor, -, finds, -⟩ :=
    finds_default_constructor ⟨.ofPoint, {}⟩ .initial (.toPoint 4)
      ⟨.point, [.pointLength], [.pointInit], []⟩ (by decide) rfl rfl rfl rfl constructed
  refine ⟨constructed, by decide, ?_⟩
  rcases before with - | ⟨first, - | ⟨second, before⟩⟩
  · cases split
    cases isConstructor
  · cases split
    refine finds fun candidate inside => ?_
    rw [List.mem_singleton.mp inside]
    rintro ⟨member, stands, index⟩
    cases List.mem_singleton.mp stands
    cases index
  · simp at split

/-- A reference to a default constructor does not always find the first constructor: a member
in front of it captures the reference if it has the index that the reference carries. -/
theorem Decode.default_constructor_captured :
    ¬ ∀ (environment : Environment) (state : State) (reference : DescriptorReference)
      (scope : ClassScope) (constructor : Descriptor), reference.className ≠ "" →
      environment.world.findClass? reference.package reference.className = some scope →
      reference.isDefaultConstructor = true → reference.isEnumEntry = false →
      reference.isEnumSpecial = false →
      FirstWith (·.kind = .constructor) (scope.members ++ scope.constructors) constructor →
        resolveReference reference environment state = .ok constructor state := by
  intro findsConstructor
  have first : FirstWith (·.kind = .constructor) [Descriptor.pointLength, .pointInit]
      .pointInit := .there (by decide) (.here rfl)
  have finds := findsConstructor ⟨.ofPoint, {}⟩ .initial (.toPoint 0)
    ⟨.point, [.pointLength], [.pointInit], []⟩ .pointInit (by decide) rfl rfl rfl rfl first
  have captured : resolveReference (.toPoint 0) ⟨.ofPoint, {}⟩ .initial =
      .ok .pointLength .initial := rfl
  cases captured.symm.trans finds

end IrLink

import IrLink.Proofs.Decode.Run

/-!
# What references mean

`Universe.Means` says which entity a reference means, or that it means none,
without saying how the entity is found: what is first in a list is told by what
stands in front of it, and what is the only one by what stands around it.
Every reference falls under exactly one of the cases, and `resolveReference`
answers with what the reference means, or fails for a reference that means
nothing.  Whatever is meant is contained in the universe (`Universe.Contains`).
-/

namespace IrLink

/-- The first item of a list that has a property. -/
def FirstWith {α : Type} (property : α → Prop) (items : List α) (item : α) : Prop :=
  ∃ before after, items = before ++ item :: after ∧ property item ∧
    ∀ other ∈ before, ¬ property other

/-- The one item of a list that has a property. -/
def OnlyWith {α : Type} (property : α → Prop) (items : List α) (item : α) : Prop :=
  ∃ before after, items = before ++ item :: after ∧ property item ∧
    ∀ other ∈ before ++ after, ¬ property other

namespace FirstWith

variable {α : Type} {property : α → Prop} {items : List α} {item first : α}

theorem here (has : property item) : FirstWith property (item :: items) item :=
  ⟨[], items, rfl, has, by rintro _ ⟨⟩⟩

theorem there (hasNot : ¬ property first) (rest : FirstWith property items item) :
    FirstWith property (first :: items) item := by
  obtain ⟨before, after, rfl, has, earlier⟩ := rest
  exact ⟨first :: before, after, rfl, has, List.forall_mem_cons.mpr ⟨hasNot, earlier⟩⟩

/-- The first item of a list is its head, or the first of its tail. -/
theorem cons_cases (found : FirstWith property (first :: items) item) :
    first = item ∧ property item ∨ ¬ property first ∧ FirstWith property items item := by
  obtain ⟨before, after, split, has, earlier⟩ := found
  cases before with
  | nil =>
    cases split
    exact .inl ⟨rfl, has⟩
  | cons other before =>
    cases split
    obtain ⟨hasNot, earlier⟩ := List.forall_mem_cons.mp earlier
    exact .inr ⟨hasNot, before, after, rfl, has, earlier⟩

theorem mem (found : FirstWith property items item) : item ∈ items := by
  obtain ⟨before, after, rfl, -⟩ := found
  exact List.mem_append_right before (.head after)

/-- There is at most one first item of a list with a property. -/
theorem unique {other : α} (found : FirstWith property items item)
    (alsoFound : FirstWith property items other) : item = other := by
  induction items with
  | nil =>
    obtain ⟨before, after, split, -⟩ := found
    simp at split
  | cons first items inductionHypothesis =>
    rcases found.cons_cases with ⟨rfl, has⟩ | ⟨hasNot, found⟩
    · rcases alsoFound.cons_cases with ⟨same, -⟩ | ⟨hasNot, -⟩
      · exact same
      · exact absurd has hasNot
    · rcases alsoFound.cons_cases with ⟨rfl, has⟩ | ⟨-, alsoFound⟩
      · exact absurd has hasNot
      · exact inductionHypothesis found alsoFound

/-- A list has a first item with a property, or no item with it. -/
theorem exists_or_none (property : α → Prop) (items : List α) :
    (∃ item, FirstWith property items item) ∨ ∀ item ∈ items, ¬ property item := by
  induction items with
  | nil => exact .inr (by rintro _ ⟨⟩)
  | cons first items inductionHypothesis =>
    by_cases has : property first
    · exact .inl ⟨first, here has⟩
    · rcases inductionHypothesis with ⟨item, found⟩ | nowhere
      · exact .inl ⟨item, there has found⟩
      · exact .inr (List.forall_mem_cons.mpr ⟨has, nowhere⟩)

end FirstWith

theorem OnlyWith.mem {α : Type} {property : α → Prop} {items : List α} {item : α}
    (found : OnlyWith property items item) : item ∈ items := by
  obtain ⟨before, after, rfl, -⟩ := found
  exact List.mem_append_right before (.head after)

namespace Universe

variable {world : Universe} {reference : DescriptorReference} {candidate : Descriptor}
  {candidates : List Descriptor} {scope : ClassScope} {outcome : Option Descriptor}

/-! ## The meaning of a reference -/

/-- The classes and enum entries of the name that a reference gives. -/
def IsClassifier (reference : DescriptorReference) (member : Descriptor) : Prop :=
  (member.kind = .klass ∨ member.kind = .enumEntry) ∧ member.name = reference.name

/-- The functions of the name that a reference gives. -/
def IsSpecial (reference : DescriptorReference) (function : Descriptor) : Prop :=
  function.name = reference.name

/-- The members whose index counts for a candidate: the declared members behind
it if both the reference and the candidate speak of an inherited member, and the
candidate alone otherwise. -/
def standsFor (world : Universe) (reference : DescriptorReference) (candidate : Descriptor) :
    List Descriptor :=
  if reference.isFakeOverride = true ∧ candidate.isFakeOverride = true then
    world.realMembers candidate
  else
    [candidate]

/-- A candidate answers a reference: it is a constructor and the reference asks
for the default one, or a member that it stands for has the index of the
reference. -/
def Answers (world : Universe) (reference : DescriptorReference) (candidate : Descriptor) :
    Prop :=
  (reference.isDefaultConstructor = true ∧ candidate.kind = .constructor) ∨
    ∃ member ∈ world.standsFor reference candidate,
      member.index = some reference.uniqueId.index

/-- What a reference makes of the candidate that answers it.  An accessor is
asked for of properties only, and the setter rather than the getter; a missing
accessor is nothing. -/
inductive Access (world : Universe) (reference : DescriptorReference) (candidate : Descriptor) :
    Option Descriptor → Prop
  | setter (property : candidate.kind = .property) (asked : reference.isSetter = true) :
    Access world reference candidate (world.setter? candidate)
  | getter (property : candidate.kind = .property) (notSetter : reference.isSetter = false)
    (asked : reference.isGetter = true) :
    Access world reference candidate (world.getter? candidate)
  | itself
    (plain : ¬ (candidate.kind = .property ∧
      (reference.isSetter = true ∨ reference.isGetter = true))) :
    Access world reference candidate (some candidate)

/-- The candidates among which a reference finds its entity by index: the
members of its package if it names no class, and otherwise the members and then
the constructors of its class, unless it asks for a special member of an
enumeration. -/
inductive Candidates (world : Universe) (reference : DescriptorReference) :
    List Descriptor → Prop
  | package (noClass : reference.className = "") :
    Candidates world reference (world.packageMembers reference.package)
  | klass {scope : ClassScope} (named : reference.className ≠ "")
    (found : world.findClass? reference.package reference.className = some scope)
    (notEntry : reference.isEnumEntry = false) (notSpecial : reference.isEnumSpecial = false) :
    Candidates world reference (scope.members ++ scope.constructors)

/-- What a reference means: an entity, or nothing. -/
inductive Means (world : Universe) (reference : DescriptorReference) :
    Option Descriptor → Prop
  | unknownClass (named : reference.className ≠ "")
    (missing : world.findClass? reference.package reference.className = none) :
    Means world reference none
  | entry {scope : ClassScope} {member : Descriptor} (named : reference.className ≠ "")
    (found : world.findClass? reference.package reference.className = some scope)
    (asked : reference.isEnumEntry = true)
    (first : FirstWith (IsClassifier reference) scope.members member) :
    Means world reference (some member)
  | noEntry {scope : ClassScope} (named : reference.className ≠ "")
    (found : world.findClass? reference.package reference.className = some scope)
    (asked : reference.isEnumEntry = true)
    (nowhere : ∀ member ∈ scope.members, ¬ IsClassifier reference member) :
    Means world reference none
  | special {scope : ClassScope} {function : Descriptor} (named : reference.className ≠ "")
    (found : world.findClass? reference.package reference.className = some scope)
    (notEntry : reference.isEnumEntry = false) (asked : reference.isEnumSpecial = true)
    (only : OnlyWith (IsSpecial reference) scope.staticFunctions function) :
    Means world reference (some function)
  | noSpecial {scope : ClassScope} (named : reference.className ≠ "")
    (found : world.findClass? reference.package reference.className = some scope)
    (notEntry : reference.isEnumEntry = false) (asked : reference.isEnumSpecial = true)
    (notOne : ∀ function, ¬ OnlyWith (IsSpecial reference) scope.staticFunctions function) :
    Means world reference none
  | candidate {candidates : List Descriptor} {candidate : Descriptor}
    {outcome : Option Descriptor} (among : Candidates world reference candidates)
    (first : FirstWith (Answers world reference) candidates candidate)
    (access : Access world reference candidate outcome) :
    Means world reference outcome
  | noCandidate {candidates : List Descriptor} (among : Candidates world reference candidates)
    (nowhere : ∀ candidate ∈ candidates, ¬ Answers world reference candidate) :
    Means world reference none

/-! ## What is found is meant -/

theorem accessed?_of_access (access : Access world reference candidate outcome) :
    world.accessed? reference candidate = outcome := by
  unfold accessed?
  cases access with
  | setter property asked => simp [property, asked]
  | getter property notSetter asked => simp [property, notSetter, asked]
  | itself plain =>
    by_cases property : candidate.kind = .property
    · have noAccessor : ¬ (reference.isSetter = true ∨ reference.isGetter = true) :=
        fun asked => plain ⟨property, asked⟩
      simp only [not_or, Bool.not_eq_true] at noAccessor
      simp [property, noAccessor]
    · simp [property]

theorem access_accessed? (world : Universe) (reference : DescriptorReference)
    (candidate : Descriptor) :
    Access world reference candidate (world.accessed? reference candidate) := by
  by_cases property : candidate.kind = .property
  · cases asksSetter : reference.isSetter with
    | true =>
      have access : Access world reference candidate _ := .setter property asksSetter
      rwa [accessed?_of_access access]
    | false =>
      cases asksGetter : reference.isGetter with
      | true =>
        have access : Access world reference candidate _ := .getter property asksSetter asksGetter
        rwa [accessed?_of_access access]
      | false =>
        have access : Access world reference candidate _ :=
          .itself (by simp [asksSetter, asksGetter])
        rwa [accessed?_of_access access]
  · have access : Access world reference candidate _ := .itself fun asked => property asked.1
    rwa [accessed?_of_access access]

/-- A constructor is accessed as itself. -/
theorem accessed?_of_constructor (isConstructor : candidate.kind = .constructor) :
    world.accessed? reference candidate = some candidate :=
  accessed?_of_access (.itself fun asked => by simp [isConstructor] at asked)

theorem hasIndex_iff :
    world.hasIndex reference candidate = true ↔
      ∃ member ∈ world.standsFor reference candidate,
        member.index = some reference.uniqueId.index := by
  simp [hasIndex, standsFor]

/-- The scan goes by the head of its candidates if that answers the reference,
and past it otherwise. -/
theorem scan?_cons_of_answers (answers : Answers world reference candidate) :
    world.scan? reference (candidate :: candidates) = world.accessed? reference candidate := by
  unfold scan?
  split
  · rename_i isDefault
    simp only [Bool.and_eq_true, beq_iff_eq] at isDefault
    exact (accessed?_of_constructor isDefault.2).symm
  · rename_i notDefault
    simp only [Bool.and_eq_true, beq_iff_eq] at notDefault
    rw [if_pos (hasIndex_iff.mpr (answers.resolve_left notDefault))]

theorem scan?_cons_of_not (answers : ¬ Answers world reference candidate) :
    world.scan? reference (candidate :: candidates) = world.scan? reference candidates := by
  have notDefault : ¬ (reference.isDefaultConstructor && candidate.kind == .constructor) = true :=
    fun isDefault => answers (.inl (by simpa using isDefault))
  have noIndex : ¬ world.hasIndex reference candidate = true :=
    fun index => answers (.inr (hasIndex_iff.mp index))
  rw [scan?, if_neg notDefault, if_neg noIndex]

theorem scan?_of_first (first : FirstWith (Answers world reference) candidates candidate) :
    world.scan? reference candidates = world.accessed? reference candidate := by
  induction candidates with
  | nil =>
    obtain ⟨before, after, split, -⟩ := first
    simp at split
  | cons head candidates inductionHypothesis =>
    rcases first.cons_cases with ⟨rfl, answers⟩ | ⟨answers, later⟩
    · exact scan?_cons_of_answers answers
    · rw [scan?_cons_of_not answers, inductionHypothesis later]

theorem scan?_of_nowhere
    (nowhere : ∀ candidate ∈ candidates, ¬ Answers world reference candidate) :
    world.scan? reference candidates = none := by
  induction candidates with
  | nil => rfl
  | cons head candidates inductionHypothesis =>
    obtain ⟨answers, nowhere⟩ := List.forall_mem_cons.mp nowhere
    rw [scan?_cons_of_not answers, inductionHypothesis nowhere]

theorem isClassifier_iff {member : Descriptor} :
    ((member.kind == .klass || member.kind == .enumEntry) &&
        member.name == reference.name) = true ↔ IsClassifier reference member := by
  simp [IsClassifier]

theorem contributedClassifier?_of_first
    (first : FirstWith (IsClassifier reference) scope.members candidate) :
    scope.contributedClassifier? reference.name = some candidate := by
  obtain ⟨before, after, split, isClassifier, earlier⟩ := first
  refine List.find?_eq_some_iff_append.mpr
    ⟨isClassifier_iff.mpr isClassifier, before, after, split, fun other inside => ?_⟩
  rw [Bool.not_eq_true', Bool.eq_false_iff]
  exact fun classifies => earlier other inside (isClassifier_iff.mp classifies)

theorem contributedClassifier?_of_nowhere
    (nowhere : ∀ member ∈ scope.members, ¬ IsClassifier reference member) :
    scope.contributedClassifier? reference.name = none :=
  List.find?_eq_none.mpr fun member inside classifies =>
    nowhere member inside (isClassifier_iff.mp classifies)

theorem staticFunctionsNamed_eq_singleton_iff {function : Descriptor} :
    scope.staticFunctionsNamed reference.name = [function] ↔
      OnlyWith (IsSpecial reference) scope.staticFunctions function := by
  unfold ClassScope.staticFunctionsNamed OnlyWith IsSpecial
  rw [List.filter_eq_cons_iff]
  simp [List.filter_eq_nil_iff, or_imp, forall_and, and_left_comm]

/-- A special member is found where the list of its name has one item. -/
theorem resolveMember?_of_special (notEntry : reference.isEnumEntry = false)
    (asked : reference.isEnumSpecial = true) :
    (∃ function, scope.staticFunctionsNamed reference.name = [function] ∧
        world.resolveMember? reference scope = some function) ∨
      (∀ function, scope.staticFunctionsNamed reference.name ≠ [function]) ∧
        world.resolveMember? reference scope = none := by
  unfold resolveMember?
  simp only [notEntry, asked, Bool.false_eq_true, if_true, if_false]
  split
  · rename_i function named
    exact .inl ⟨function, named, rfl⟩
  · rename_i notOne
    exact .inr ⟨notOne, rfl⟩

theorem resolve?_of_candidates (among : Candidates world reference candidates) :
    world.resolve? reference = world.scan? reference candidates := by
  cases among with
  | package noClass => simp [resolve?, noClass]
  | klass named found notEntry notSpecial =>
    simp [resolve?, named, found, resolveMember?, notEntry, notSpecial, ClassScope.candidates]

theorem resolve?_of_found (named : reference.className ≠ "")
    (found : world.findClass? reference.package reference.className = some scope) :
    world.resolve? reference = world.resolveMember? reference scope := by
  simp [resolve?, named, found]

/-- What a reference means is what it resolves to. -/
theorem resolve?_of_means (means : Means world reference outcome) :
    world.resolve? reference = outcome := by
  cases means with
  | unknownClass named missing => simp [resolve?, named, missing]
  | entry named found asked first =>
    rw [resolve?_of_found named found, resolveMember?, if_pos asked]
    exact contributedClassifier?_of_first first
  | noEntry named found asked nowhere =>
    rw [resolve?_of_found named found, resolveMember?, if_pos asked]
    exact contributedClassifier?_of_nowhere nowhere
  | special named found notEntry asked only =>
    have one := staticFunctionsNamed_eq_singleton_iff.mpr only
    rw [resolve?_of_found named found]
    rcases resolveMember?_of_special notEntry asked with ⟨function, same, resolves⟩ | ⟨notOne, -⟩
    · rw [one] at same
      cases same
      exact resolves
    · exact absurd one (notOne _)
  | noSpecial named found notEntry asked notOne =>
    rw [resolve?_of_found named found]
    rcases resolveMember?_of_special notEntry asked with ⟨function, one, -⟩ | ⟨-, resolves⟩
    · exact absurd (staticFunctionsNamed_eq_singleton_iff.mp one) (notOne function)
    · exact resolves
  | candidate among first access =>
    rw [resolve?_of_candidates among, scan?_of_first first, accessed?_of_access access]
  | noCandidate among nowhere =>
    rw [resolve?_of_candidates among, scan?_of_nowhere nowhere]

/-! ## Every reference has a meaning -/

theorem means_of_candidates (among : Candidates world reference candidates) :
    ∃ outcome, Means world reference outcome := by
  rcases FirstWith.exists_or_none (Answers world reference) candidates with
    ⟨candidate, first⟩ | nowhere
  · exact ⟨_, .candidate among first (access_accessed? world reference candidate)⟩
  · exact ⟨none, .noCandidate among nowhere⟩

theorem means_of_found (named : reference.className ≠ "")
    (found : world.findClass? reference.package reference.className = some scope) :
    ∃ outcome, Means world reference outcome := by
  cases asksEntry : reference.isEnumEntry with
  | true =>
    rcases FirstWith.exists_or_none (IsClassifier reference) scope.members with
      ⟨member, first⟩ | nowhere
    · exact ⟨some member, .entry named found asksEntry first⟩
    · exact ⟨none, .noEntry named found asksEntry nowhere⟩
  | false =>
    cases asksSpecial : reference.isEnumSpecial with
    | true =>
      by_cases one : ∃ function, OnlyWith (IsSpecial reference) scope.staticFunctions function
      · obtain ⟨function, only⟩ := one
        exact ⟨some function, .special named found asksEntry asksSpecial only⟩
      · exact ⟨none, .noSpecial named found asksEntry asksSpecial (not_exists.mp one)⟩
    | false => exact means_of_candidates (.klass named found asksEntry asksSpecial)

theorem exists_means (world : Universe) (reference : DescriptorReference) :
    ∃ outcome, Means world reference outcome := by
  by_cases noClass : reference.className = ""
  · exact means_of_candidates (.package noClass)
  · cases found : world.findClass? reference.package reference.className with
    | none => exact ⟨none, .unknownClass noClass found⟩
    | some scope => exact means_of_found noClass found

/-- A reference means exactly what it resolves to. -/
theorem means_iff : Means world reference outcome ↔ world.resolve? reference = outcome := by
  refine ⟨resolve?_of_means, fun resolves => ?_⟩
  obtain ⟨meant, means⟩ := exists_means world reference
  rwa [← resolves, resolve?_of_means means]

/-! ## What references can mean -/

/-- The descriptors that a universe contains: its entries, the members of its packages, and
what is in the scopes of its classes. -/
inductive Contains (world : Universe) : Descriptor → Prop
  | entry {descriptor : Descriptor} {position : Nat}
    (found : world.table.get? position = some descriptor) : Contains world descriptor
  | packageMember {descriptor : Descriptor} {package : String}
    (among : descriptor ∈ world.packageMembers package) : Contains world descriptor
  | klass {scope : ClassScope} {package className : String}
    (found : world.findClass? package className = some scope) : Contains world scope.descriptor
  | classMember {descriptor : Descriptor} {scope : ClassScope} {package className : String}
    (found : world.findClass? package className = some scope)
    (among : descriptor ∈ scope.members ++ scope.constructors ++ scope.staticFunctions) :
    Contains world descriptor

/-- A universe that contains no placeholders. -/
def IsReal (world : Universe) : Prop :=
  ∀ descriptor, world.Contains descriptor → descriptor.isPlaceholder = false

/-- What a reference finds among its candidates is contained in the universe. -/
theorem contains_of_candidates {descriptor : Descriptor}
    (among : world.Candidates reference candidates) (inside : descriptor ∈ candidates) :
    world.Contains descriptor := by
  cases among with
  | package => exact .packageMember inside
  | klass named found => exact .classMember found (List.mem_append_left _ inside)

/-- What is accessed is the candidate or an entry of the universe. -/
theorem contains_of_access {descriptor : Descriptor} (contains : world.Contains candidate)
    (access : world.Access reference candidate outcome) (found : outcome = some descriptor) :
    world.Contains descriptor := by
  cases access with
  | setter | getter =>
    obtain ⟨position, -, isEntry⟩ := Option.bind_eq_some_iff.mp found
    exact .entry isEntry
  | itself =>
    cases found
    exact contains

/-- What a reference means is contained in the universe. -/
theorem contains_of_resolve? {descriptor : Descriptor}
    (resolves : world.resolve? reference = some descriptor) :
    world.Contains descriptor := by
  generalize meant : some descriptor = outcome at resolves
  cases means_iff.mpr resolves with
  | unknownClass => cases meant
  | entry named found asked first =>
    cases meant
    exact .classMember found (List.mem_append_left _ (List.mem_append_left _ first.mem))
  | noEntry => cases meant
  | special named found notEntry asked only =>
    cases meant
    exact .classMember found (List.mem_append_right _ only.mem)
  | noSpecial => cases meant
  | candidate among first access =>
    exact contains_of_access (contains_of_candidates among first.mem) access meant.symm
  | noCandidate => cases meant

/-- The entries of a universe are no placeholders. -/
theorem isPlaceholder_of_entry {descriptor : Descriptor} {position : Nat}
    (found : world.table.get? position = some descriptor) : descriptor.isPlaceholder = false := by
  obtain ⟨inside, rfl⟩ := Array.getElem?_eq_some_iff.mp found
  rw [Descriptor.isPlaceholder, world.table.id_eq position inside]

end Universe

namespace Decode

theorem resolveReference_eq (reference : DescriptorReference) (environment : Environment)
    (state : State) :
    resolveReference reference environment state =
      (environment.world.resolve? reference).elim
        (.error (.unresolvedReference reference) state) (.ok · state) := by
  unfold resolveReference
  rw [bind_of_ok (show (read : Decode Environment) environment state =
    .ok environment state from rfl)]
  cases environment.world.resolve? reference <;> rfl

/-- The descriptor of a reference is the entity that the reference means.  If
it means none, then it fails as an unresolved reference.  Neither way anything
changes. -/
theorem resolveReference_means (reference : DescriptorReference) (environment : Environment)
    (state : State) :
    (∀ descriptor after,
      resolveReference reference environment state = .ok descriptor after ↔
        environment.world.Means reference (some descriptor) ∧ after = state) ∧
      ∀ error after,
        resolveReference reference environment state = .error error after ↔
          environment.world.Means reference none ∧
            error = .unresolvedReference reference ∧ after = state := by
  simp only [resolveReference_eq, Universe.means_iff]
  cases environment.world.resolve? reference with
  | some descriptor => simp [eq_comm]
  | none => simp [eq_comm]

end Decode

end IrLink

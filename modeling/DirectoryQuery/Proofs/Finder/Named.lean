/-
Module: DirectoryQuery.Proofs.Finder.Named
Purpose: Every property that may be queried has a finder of its own name, whatever words stand in the
  name and whatever other properties there are.  Three names are no good for that: one that calls for
  sorting, one that another property is spelled like, and one with a line break.
Main exports:
  Text.newline_notMem_capitalize, criteriaOf_findBy, Entity.spelledAs?,
  Entity.Built.isFirstReading_of_spelledAs?, Finder.equating, Finder.parse_nameFor
-/
import DirectoryQuery.Proofs.Finder.Subject

namespace DirectoryQuery

open Text

/-! ### The front of the name -/

/-- The criteria of a name that starts with `findBy` are all that stands behind it, unless it calls for
sorting. -/
theorem criteriaOf_findBy {body : List Char} (nonempty : body ≠ []) (unbroken : '\n' ∉ body) :
    criteriaOf ("findBy" ++ String.ofList body) =
      if "OrderBy".toList <:+: body then .error .sorted else .ok body := by
  have spelled : ("findBy" ++ String.ofList body).toList =
      "find".toList ++ ([] ++ (criteriaMark ++ body)) := by
    rw [String.toList_append]
    exact congrArg _ String.toList_ofList
  have whole : FinderParts.withoutFinalBreak body = body :=
    (FinderParts.withoutFinalBreak_eq_iff unbroken).2 (.inl rfl)
  rw [criteriaOf_named (by decide) .none spelled, whole, if_neg unbroken, if_neg nonempty]

/-! ### Line breaks in names -/

namespace Text

/-- Every number that is no code of a character gives the null character. -/
theorem eq_toNat_of_ofNat_eq {code : Nat} {c : Char} (made : Char.ofNat code = c)
    (visible : c ≠ '\x00') : code = c.toNat := by
  by_cases valid : code.isValidChar
  · have kept : Char.ofNat code = Char.ofNatAux code valid := dif_pos valid
    exact congrArg Char.toNat (kept.symm.trans made)
  · have null : Char.ofNat code = '\x00' := dif_neg valid
    exact absurd (made.symm.trans null) visible

/-- No letter that moves within a run becomes a line break. -/
theorem image?_ne_newline {run : LetterCase.CaseRun} (listed : run ∈ LetterCase.upperRuns)
    {c : Char} : run.image? c ≠ some '\n' := by
  intro moved
  unfold LetterCase.CaseRun.image? at moved
  split at moved
  · next inside =>
      have beyond : ∀ run ∈ LetterCase.upperRuns, 10 < run.first + run.shift := by decide +kernel
      have later := beyond run listed
      have ten : (c.toNat + run.shift).toNat = 10 :=
        eq_toNat_of_ofNat_eq (Option.some.inj moved) (by decide)
      omega
  · cases moved

theorem eq_newline_of_mem_upper {c : Char} (made : '\n' ∈ LetterCase.upper c) : c = '\n' := by
  unfold LetterCase.upper at made
  split at made
  · next codes found =>
      have unbroken : ∀ entry ∈ LetterCase.expandingUppers, '\n' ∉ entry.2.map Char.ofNat := by
        decide +kernel
      obtain ⟨front, back, same, -⟩ := List.lookup_eq_some_iff.1 found
      exact absurd made (unbroken (c.toNat, codes) (by simp [same]))
  · rw [List.mem_singleton] at made
    cases moved : LetterCase.upperRuns.findSome? (·.image? c) with
    | none => rw [made, moved, Option.getD_none]
    | some d =>
        obtain ⟨run, listed, image⟩ := List.exists_of_findSome?_eq_some moved
        rw [moved, Option.getD_some] at made
        exact absurd (made ▸ image) (image?_ne_newline listed)

/-- Capitalising a name brings no line break into it. -/
theorem newline_notMem_capitalize {text : List Char} (unbroken : '\n' ∉ text) :
    '\n' ∉ capitalize text := by
  cases text with
  | nil => exact unbroken
  | cons c rest =>
      rw [List.mem_cons, not_or] at unbroken
      rw [capitalize, List.mem_append, not_or]
      exact ⟨fun made => unbroken.1 (eq_newline_of_mem_upper made).symm, unbroken.2⟩

end Text

/-! ### The property of a name -/

/-- The segment of a property without a keyword. -/
def Segment.plain (property : String) : Segment := ⟨property, ⟨"", .equals, false⟩⟩

theorem Keyword.eq_of_word_eq_empty {keyword : Keyword} (known : keyword ∈ Keyword.all)
    (empty : keyword.word = "") : keyword = ⟨"", .equals, false⟩ := by
  have named : ∀ keyword ∈ Keyword.all, keyword.word = "" → keyword = ⟨"", .equals, false⟩ := by
    decide
  exact named keyword known empty

namespace Entity

variable {entity : Entity}

/-- The property that a name stands for in criteria: the one declared first among those that may be
queried and are spelled so. -/
def spelledAs? (entity : Entity) (spelling : List Char) : Option String :=
  entity.queryableProperties.find? fun property => capitalized property == spelling

theorem exists_spelledAs? {property : String}
    (queryable : property ∈ entity.queryableProperties) :
    ∃ found, entity.spelledAs? (capitalized property) = some found := by
  rw [← Option.isSome_iff_exists, spelledAs?, List.find?_isSome]
  exact ⟨property, queryable, beq_self_eq_true _⟩

theorem spelledAs?_eq_some {spelling : List Char} {found : String}
    (known : entity.spelledAs? spelling = some found) :
    found ∈ entity.queryableProperties ∧ capitalized found = spelling := by
  refine ⟨List.mem_of_find?_eq_some known, ?_⟩
  have test := List.find?_some known
  exact eq_of_beq test

/-- The properties that may be queried stand in the order of their declaration. -/
theorem Built.pairwise_queryableProperties (built : entity.Built) :
    entity.queryableProperties.Pairwise fun p q =>
      entity.propertyNames.idxOf p < entity.propertyNames.idxOf q := by
  have declared : entity.propertyNames.Pairwise fun p q =>
      entity.propertyNames.idxOf p < entity.propertyNames.idxOf q := by
    rw [List.pairwise_iff_getElem]
    intro i j inside inside' before
    rwa [built.nodup_propertyNames.idxOf_getElem, built.nodup_propertyNames.idxOf_getElem]
  have kept : entity.queryableProperties.Sublist entity.propertyNames :=
    List.Sublist.map _ List.filter_sublist
  exact declared.sublist kept

/-- Of the properties that are spelled alike the one that the name stands for is tried first. -/
theorem Built.triedBefore_of_spelledAs? (built : entity.Built) {spelling : List Char}
    {found other : String} (known : entity.spelledAs? spelling = some found)
    (queryable : other ∈ entity.queryableProperties) (spelled : capitalized other = spelling)
    (different : other ≠ found) : entity.TriedBefore found other := by
  obtain ⟨-, spelled'⟩ := spelledAs?_eq_some known
  obtain ⟨-, front, back, split, unlike⟩ := List.find?_eq_some_iff_append.1 known
  have behind : other ∈ back := by
    rw [split, List.mem_append, List.mem_cons] at queryable
    rcases queryable with early | same | late
    · have differs := unlike other early
      simp [spelled] at differs
    · exact absurd same different
    · exact late
  have order := built.pairwise_queryableProperties
  rw [split, List.pairwise_append, List.pairwise_cons] at order
  exact .earlier (spelled'.trans spelled.symm) (order.2.1.1 other behind)

/-- The property that a name stands for is the first reading of the name.  Whatever else the name starts
with is shorter, or a property that is declared later. -/
theorem Built.isFirstReading_of_spelledAs? (built : entity.Built) {spelling : List Char}
    {found : String} (known : entity.spelledAs? spelling = some found) :
    Criteria.IsFirstReading ⟨.plain found, []⟩ entity spelling := by
  obtain ⟨queryable, spelled⟩ := spelledAs?_eq_some known
  have leads : (Segment.plain found).Leads entity spelling := by
    rintro ⟨property, keyword⟩ ⟨queryable', listed⟩ starts different
    apply Segment.Before.property
    have size := starts.length_le
    rw [Segment.spelling, List.length_append] at size
    dsimp only at queryable' listed size ⊢
    by_cases shorter : (capitalized property).length < spelling.length
    · exact .longer (spelled ▸ shorter)
    · have alike : capitalized property = spelling :=
        ((List.prefix_append _ _).trans starts).eq_of_length (by dsimp only; omega)
      have empty : keyword.word = "" :=
        String.toList_eq_nil_iff.1 (List.length_eq_zero_iff.1 (by omega))
      refine built.triedBefore_of_spelledAs? known queryable' alike ?_
      intro same
      apply different
      rw [same, Keyword.eq_of_word_eq_empty listed empty, Segment.plain]
  have whole : spelling = (Segment.plain found).spelling := by
    rw [Segment.spelling, Segment.plain, spelled]
    exact (List.append_nil _).symm
  rw [whole] at leads ⊢
  exact Criteria.isFirstReading_single ⟨queryable, List.mem_cons_self⟩ leads

end Entity

/-! ### Finders of one property -/

namespace Finder

/-- The name that goes with a property. -/
def nameFor (property : String) : String := "findBy" ++ String.ofList (capitalized property)

/-- The finder that compares a property with its only argument. -/
def equating (descriptor property : String) : Finder where
  descriptor := descriptor
  predicate := .comparison (.plain property) .equals (.parameter ⟨0, property⟩)
  parameters := [⟨0, property⟩]

variable {entity : Entity}

/-- A property that may be queried has a finder of its name: it compares with its argument the property
that the name stands for.  Only a name that calls for sorting is refused. -/
theorem parse_nameFor (built : entity.Built) {property : String}
    (queryable : property ∈ entity.queryableProperties) (unbroken : '\n' ∉ property.toList) :
    ("OrderBy".toList <:+: capitalized property →
      parse entity (nameFor property) = .error ⟨nameFor property, .subject .sorted⟩) ∧
    (¬"OrderBy".toList <:+: capitalized property →
      ∃ found, entity.spelledAs? (capitalized property) = some found ∧
        parse entity (nameFor property) = .ok (equating (nameFor property) found)) ∧
    (parse entity (nameFor property) = .ok (equating (nameFor property) property) ↔
      ¬"OrderBy".toList <:+: capitalized property ∧
        entity.spelledAs? (capitalized property) = some property) := by
  have nonempty : capitalized property ≠ [] := by
    obtain ⟨known, listed, same⟩ := List.mem_map.1 queryable
    exact capitalized_ne_nil (same ▸ built.property_ne_empty (List.mem_of_mem_filter listed))
  have front := criteriaOf_findBy nonempty (Text.newline_notMem_capitalize unbroken)
  have refused (sorts : "OrderBy".toList <:+: capitalized property) :
      parse entity (nameFor property) = .error ⟨nameFor property, .subject .sorted⟩ := by
    rw [if_pos sorts] at front
    rw [parse, nameFor, front]
  have accepted (plain : ¬"OrderBy".toList <:+: capitalized property) {found : String}
      (known : entity.spelledAs? (capitalized property) = some found) :
      parse entity (nameFor property) = .ok (equating (nameFor property) found) := by
    rw [if_neg plain] at front
    exact parse_eq_ok_iff.2 ⟨_, _, front,
      built.readCriteria_eq_read_iff.2 (built.isFirstReading_of_spelledAs? known), rfl, rfl⟩
  obtain ⟨found, known⟩ := Entity.exists_spelledAs? queryable
  refine ⟨refused, fun plain => ⟨found, known, accepted plain known⟩, ?_, ?_⟩
  · intro parsed
    have plain : ¬"OrderBy".toList <:+: capitalized property := by
      intro sorts
      rw [refused sorts] at parsed
      cases parsed
    obtain rfl : found = property := by
      have same := (accepted plain known).symm.trans parsed
      simpa [equating] using same
    exact ⟨plain, known⟩
  · rintro ⟨plain, itself⟩
    exact accepted plain itself

end Finder

/-- The description of a purchase with awkward names: one is made of words that finder names know, one
calls for sorting, two are spelled alike, and one has a line break. -/
def EntityDescriptor.purchase : EntityDescriptor where
  name := "Purchase"
  objectClasses := ["purchase"]
  properties := [
    { name := "dn", identifier := true, valueType := .dn },
    { name := "byOrIsNotNull" },
    { name := "byOr" },
    { name := "orderBy" },
    { name := "sn" },
    { name := "Sn" },
    { name := "s\nn", attributeName := some "serialNumber" }]

/-- The entity of purchases. -/
def Entity.purchase : Entity where
  name := "Purchase"
  objectClasses := ["purchase"]
  attributes := EntityDescriptor.purchase.properties.map PropertyDescriptor.resolve
  base := ⟨[]⟩

theorem Entity.built_purchase : Entity.purchase.Built :=
  ⟨EntityDescriptor.purchase, ⟨by decide, by decide⟩, by decide +kernel⟩

namespace Finder

/-- Words that finder names know do no harm in the name of a property. -/
theorem parse_nameFor_purchase :
    Entity.purchase.Built ∧ "byOrIsNotNull" ∈ Entity.purchase.queryableProperties ∧
      nameFor "byOrIsNotNull" = "findByByOrIsNotNull" ∧
      parse .purchase (nameFor "byOrIsNotNull") =
        .ok (equating (nameFor "byOrIsNotNull") "byOrIsNotNull") := by
  have queryable : "byOrIsNotNull" ∈ Entity.purchase.queryableProperties := by decide
  obtain ⟨-, -, itself⟩ := parse_nameFor Entity.built_purchase queryable (by decide)
  exact ⟨Entity.built_purchase, queryable, by decide +kernel,
    itself.2 ⟨by decide +kernel, by decide +kernel⟩⟩

/-- Three properties of a purchase may be queried and have no finder of their name. -/
theorem parse_nameFor_purchase_astray :
    Entity.purchase.Built ∧
      (∀ property ∈ ["orderBy", "Sn", "s\nn"], property ∈ Entity.purchase.queryableProperties) ∧
      parse .purchase (nameFor "orderBy") = .error ⟨nameFor "orderBy", .subject .sorted⟩ ∧
      parse .purchase (nameFor "Sn") = .ok (equating (nameFor "Sn") "sn") ∧
      parse .purchase (nameFor "s\nn") = .error ⟨nameFor "s\nn", .subject .malformed⟩ := by
  have sorted : criteriaOf (nameFor "orderBy") = .error .sorted := by decide +kernel
  have accepted : criteriaOf (nameFor "Sn") = .ok "Sn".toList := by decide +kernel
  have malformed : criteriaOf (nameFor "s\nn") = .error .malformed := by decide +kernel
  have first : Entity.purchase.spelledAs? "Sn".toList = some "sn" := by decide +kernel
  refine ⟨Entity.built_purchase, by decide, ?_, ?_, ?_⟩
  · rw [parse, sorted]
  · exact parse_eq_ok_iff.2 ⟨_, _, accepted, Entity.built_purchase.readCriteria_eq_read_iff.2
      (Entity.built_purchase.isFirstReading_of_spelledAs? first), rfl, rfl⟩
  · rw [parse, malformed]

end Finder

end DirectoryQuery

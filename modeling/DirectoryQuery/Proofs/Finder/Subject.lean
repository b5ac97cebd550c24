/-
Module: DirectoryQuery.Proofs.Finder.Subject
Purpose: The front of a finder name has no say in its criteria.  Of all ways to cut a name into verb,
  subject and criteria the one with the shortest subject is taken, and it depends on nothing but the
  first `By`; what stands behind that is read the same whatever stands before it.
Main exports:
  CutAtMark, FinderParts.IsShortestCutOf, FinderParts.ofName?_eq_some_iff, hasLimit_iff,
  IsPlainSubject, criteriaOf_named, Finder.parse_regardless_of_subject
-/
import DirectoryQuery.Proofs.Finder.Tree
import DirectoryQuery.Report.Detail
import Mathlib.Data.List.TakeWhile

namespace DirectoryQuery

open Text

/-! ### Verbs -/

/-- No verb is the front of another. -/
theorem verb_eq_of_front {verb other : String} (known : verb ∈ finderVerbs)
    (known' : other ∈ finderVerbs) (front : verb.toList <+: other.toList) : verb = other := by
  have apart : ∀ verb ∈ finderVerbs, ∀ other ∈ finderVerbs,
      verb.toList <+: other.toList → verb = other := by decide
  exact apart verb known other known' front

/-- A name has one verb at most. -/
theorem eq_of_verb_append_eq {verb other : String} {rest rest' : List Char}
    (known : verb ∈ finderVerbs) (known' : other ∈ finderVerbs)
    (same : verb.toList ++ rest = other.toList ++ rest') : verb = other ∧ rest = rest' := by
  have equal : verb = other := by
    rcases List.prefix_or_prefix_of_prefix (List.prefix_append verb.toList rest)
        (same ▸ List.prefix_append other.toList rest') with front | front
    · exact verb_eq_of_front known known' front
    · exact (verb_eq_of_front known' known front).symm
  subst equal
  exact ⟨rfl, List.append_cancel_left same⟩

theorem findSome?_verbs_eq_some_iff {name rest : List Char} :
    (finderVerbs.findSome? fun verb => afterPrefix? verb.toList name) = some rest ↔
      ∃ verb ∈ finderVerbs, name = verb.toList ++ rest := by
  constructor
  · intro found
    obtain ⟨verb, known, after⟩ := List.exists_of_findSome?_eq_some found
    exact ⟨verb, known, afterPrefix?_eq_some_iff.1 after⟩
  · rintro ⟨verb, known, spelled⟩
    cases found : finderVerbs.findSome? fun verb => afterPrefix? verb.toList name with
    | none =>
        have missing := List.findSome?_eq_none_iff.1 found verb known
        rw [afterPrefix?_eq_some_iff.2 spelled] at missing
        cases missing
    | some other =>
        obtain ⟨verb', known', after⟩ := List.exists_of_findSome?_eq_some found
        have same := (afterPrefix?_eq_some_iff.1 after).symm.trans spelled
        rw [(eq_of_verb_append_eq known' known same).2]

/-! ### Marks -/

/-- A text that holds the mark, cut where the mark stands for the first time. -/
structure CutAtMark (text subject body : List Char) : Prop where
  spelled : text = subject ++ (criteriaMark ++ body)
  unmarked : ¬criteriaMark <:+: subject

namespace CutAtMark

/-- A subject without the mark does not share a part of the mark with what follows it, so that the mark
stands nowhere before the place of the cut. -/
theorem length_le {text subject body front back : List Char} (cut : CutAtMark text subject body)
    (marked : text = front ++ (criteriaMark ++ back)) : subject.length ≤ front.length := by
  rcases List.append_eq_append_iff.1 (cut.spelled.symm.trans marked) with
    ⟨between, rfl, -⟩ | ⟨between, rfl, tail⟩
  · simp
  · match between with
    | [] => simp
    | [c] =>
        -- The mark would have to begin with its own second letter.
        simp [criteriaMark] at tail
    | c :: d :: more =>
        obtain ⟨rfl, rfl, -⟩ : 'B' = c ∧ 'y' = d ∧ back = more ++ (criteriaMark ++ body) := by
          simpa [criteriaMark] using tail
        exact absurd ⟨front, more, by simp [criteriaMark]⟩ cut.unmarked

theorem iff_of_front {subject body rest : List Char} :
    CutAtMark (criteriaMark ++ rest) subject body ↔ subject = [] ∧ body = rest := by
  constructor
  · intro cut
    have short : subject.length ≤ ([] : List Char).length := cut.length_le rfl
    obtain rfl : subject = [] := List.length_eq_zero_iff.1 (Nat.le_zero.1 short)
    exact ⟨rfl, (List.append_cancel_left cut.spelled).symm⟩
  · rintro ⟨rfl, rfl⟩
    exact ⟨rfl, by decide⟩

theorem cons_iff {c : Char} {rest subject body : List Char}
    (later : afterPrefix? criteriaMark (c :: rest) = none) :
    CutAtMark (c :: rest) subject body ↔
      ∃ more, subject = c :: more ∧ CutAtMark rest more body := by
  have elsewhere (back : List Char) : c :: rest ≠ criteriaMark ++ back := by
    intro same
    rw [afterPrefix?_eq_some_iff.2 same] at later
    cases later
  constructor
  · intro cut
    cases subject with
    | nil => exact absurd cut.spelled (elsewhere _)
    | cons d more =>
        obtain ⟨rfl, spelled⟩ := List.cons_eq_cons.1 cut.spelled
        refine ⟨more, rfl, spelled, ?_⟩
        intro inside
        exact cut.unmarked (List.infix_cons inside)
  · rintro ⟨more, rfl, cut⟩
    refine ⟨congrArg (c :: ·) cut.spelled, ?_⟩
    intro inside
    rcases List.infix_cons_iff.1 inside with ⟨back, front⟩ | deeper
    · apply elsewhere (back ++ (criteriaMark ++ body))
      rw [cut.spelled, ← List.cons_append, ← front, List.append_assoc]
    · exact cut.unmarked deeper

end CutAtMark

namespace FinderParts

/-- A subject: nothing, or word characters of which the first is a capital letter. -/
def IsSubject : List Char → Prop
  | [] => True
  | c :: rest => c.isUpper = true ∧ ∀ d ∈ rest, isWordChar d = true

theorem atMark?_eq_some_iff {text : List Char} {parts : FinderParts} :
    atMark? text = some parts ↔
      CutAtMark text parts.subject parts.criteria ∧
        ∀ c ∈ parts.subject, isWordChar c = true := by
  induction text generalizing parts with
  | nil =>
      constructor
      · intro found
        cases found
      · rintro ⟨cut, -⟩
        have impossible := cut.spelled
        simp [criteriaMark] at impossible
  | cons c rest ih =>
      unfold atMark?
      split
      · next criteria after =>
          rw [afterPrefix?_eq_some_iff.1 after, CutAtMark.iff_of_front]
          obtain ⟨subject, body⟩ := parts
          constructor
          · rintro ⟨⟩
            exact ⟨⟨rfl, rfl⟩, by simp⟩
          · rintro ⟨⟨⟨⟩, ⟨⟩⟩, -⟩
            rfl
      · next later =>
          rw [CutAtMark.cons_iff later]
          split
          · next word =>
              rw [Option.map_eq_some_iff]
              constructor
              · rintro ⟨inner, found, rfl⟩
                obtain ⟨cut, words⟩ := ih.1 found
                exact ⟨⟨_, rfl, cut⟩, List.forall_mem_cons.2 ⟨word, words⟩⟩
              · obtain ⟨subject, body⟩ := parts
                rintro ⟨⟨more, ⟨⟩, cut⟩, words⟩
                refine ⟨⟨more, body⟩, ih.2 ⟨cut, ?_⟩, rfl⟩
                exact (List.forall_mem_cons.1 words).2
          · next strange =>
              constructor
              · intro found
                cases found
              · rintro ⟨⟨more, same, -⟩, words⟩
                exact absurd (words c (by simp [same])) strange

theorem afterVerb?_eq_some_iff {text : List Char} {parts : FinderParts} :
    afterVerb? text = some parts ↔
      CutAtMark text parts.subject parts.criteria ∧ IsSubject parts.subject := by
  unfold afterVerb?
  split
  · next criteria after =>
      rw [afterPrefix?_eq_some_iff.1 after, CutAtMark.iff_of_front]
      obtain ⟨subject, body⟩ := parts
      constructor
      · rintro ⟨⟩
        exact ⟨⟨rfl, rfl⟩, trivial⟩
      · rintro ⟨⟨⟨⟩, ⟨⟩⟩, -⟩
        rfl
  · next later =>
      split
      · constructor
        · intro found
          cases found
        · rintro ⟨cut, -⟩
          have impossible := cut.spelled
          simp [criteriaMark] at impossible
      · next c rest =>
          rw [CutAtMark.cons_iff later]
          split
          · next capital =>
              rw [Option.map_eq_some_iff]
              constructor
              · rintro ⟨inner, found, rfl⟩
                obtain ⟨cut, words⟩ := atMark?_eq_some_iff.1 found
                exact ⟨⟨_, rfl, cut⟩, capital, words⟩
              · obtain ⟨subject, body⟩ := parts
                rintro ⟨⟨more, ⟨⟩, cut⟩, -, words⟩
                exact ⟨⟨more, body⟩, atMark?_eq_some_iff.2 ⟨cut, words⟩, rfl⟩
          · next small =>
              constructor
              · intro found
                cases found
              · obtain ⟨subject, body⟩ := parts
                rintro ⟨⟨more, ⟨⟩, -⟩, capital, -⟩
                exact absurd capital small

/-! ### Line breaks -/

theorem newline_notMem_of_isSubject {subject : List Char} (word : IsSubject subject) :
    '\n' ∉ subject := by
  cases subject with
  | nil => simp
  | cons c rest =>
      intro broken
      rcases List.mem_cons.1 broken with rfl | inside
      · exact absurd word.1 (by decide)
      · exact absurd (word.2 _ inside) (by decide +kernel)

/-- What is left of a text without its final break, if it has any. -/
theorem withoutFinalBreak_eq_iff {text rest : List Char} (unbroken : '\n' ∉ rest) :
    withoutFinalBreak text = rest ↔ text = rest ∨ text = rest ++ ['\n'] := by
  unfold withoutFinalBreak
  split
  · next last =>
      constructor
      · rintro rfl
        exact .inr (List.dropLast_append_getLast? _ last).symm
      · rintro (rfl | rfl)
        · exact absurd (List.mem_of_getLast? last) unbroken
        · exact List.dropLast_concat
  · next other =>
      constructor
      · exact .inl
      · rintro (rfl | rfl)
        · rfl
        · simp at other

/-! ### Cuts -/

/-- A way to cut a finder name into a verb, a subject, the mark and criteria.  A line break may end the
name, and stands nowhere else in the criteria. -/
structure IsCutOf (parts : FinderParts) (name : List Char) : Prop where
  spelled : ∃ verb ∈ finderVerbs, ∃ ending ∈ [[], ['\n']],
    name = verb.toList ++ (parts.subject ++ (criteriaMark ++ (parts.criteria ++ ending)))
  subject : IsSubject parts.subject
  unbroken : '\n' ∉ parts.criteria

/-- The cut of a finder name with the shortest subject. -/
structure IsShortestCutOf (parts : FinderParts) (name : List Char) : Prop where
  cut : parts.IsCutOf name
  shortest : ∀ other : FinderParts, other.IsCutOf name →
    parts.subject.length ≤ other.subject.length

variable {name : String} {parts : FinderParts}

theorem IsSubject.front {front back : List Char} (word : IsSubject (front ++ back)) :
    IsSubject front := by
  cases front with
  | nil => trivial
  | cons c rest =>
      refine ⟨word.1, ?_⟩
      intro d inside
      exact word.2 d (List.mem_append_left _ inside)

/-- What the search for the verb, the mark and the line break comes to. -/
theorem ofName?_eq_some_iff_cutAtMark :
    ofName? name = some parts ↔
      ∃ verb ∈ finderVerbs, ∃ text body, name.toList = verb.toList ++ text ∧
        CutAtMark text parts.subject body ∧ IsSubject parts.subject ∧
        withoutFinalBreak body = parts.criteria ∧ '\n' ∉ parts.criteria := by
  simp only [ofName?, Option.bind_eq_bind, Option.bind_eq_some_iff, findSome?_verbs_eq_some_iff,
    afterVerb?_eq_some_iff]
  constructor
  · rintro ⟨text, ⟨verb, known, spelled⟩, inner, ⟨cut, word⟩, kept⟩
    split at kept
    · cases kept
    · next unbroken =>
        cases kept
        exact ⟨verb, known, text, _, spelled, cut, word, rfl, unbroken⟩
  · rintro ⟨verb, known, text, body, spelled, cut, word, rest, unbroken⟩
    refine ⟨text, ⟨verb, known, spelled⟩, ⟨parts.subject, body⟩, ⟨cut, word⟩, ?_⟩
    dsimp only
    rw [rest, if_neg unbroken]

/-- A cut whose subject holds the mark can be made shorter. -/
theorem IsCutOf.exists_shorter {name : List Char} (cut : parts.IsCutOf name)
    (marked : criteriaMark <:+: parts.subject) :
    ∃ other : FinderParts, other.IsCutOf name ∧ other.subject.length < parts.subject.length := by
  obtain ⟨front, more, same⟩ := marked
  obtain ⟨verb, known, ending, last, spelled⟩ := cut.spelled
  have unbroken := newline_notMem_of_isSubject cut.subject
  rw [← same, List.append_assoc] at spelled unbroken
  refine ⟨⟨front, more ++ (criteriaMark ++ parts.criteria)⟩, ⟨?_, ?_, ?_⟩, ?_⟩
  · refine ⟨verb, known, ending, last, ?_⟩
    simpa only [List.append_assoc] using spelled
  · have word : IsSubject (front ++ (criteriaMark ++ more)) := by
      rw [← List.append_assoc, same]
      exact cut.subject
    exact word.front
  · simp only [List.mem_append, not_or] at unbroken ⊢
    exact ⟨unbroken.2.2, unbroken.2.1, cut.unbroken⟩
  · rw [← same]
    simp [criteriaMark]

/-- The parts of a finder name are those of its cut with the shortest subject. -/
theorem ofName?_eq_some_iff :
    ofName? name = some parts ↔ parts.IsShortestCutOf name.toList := by
  rw [ofName?_eq_some_iff_cutAtMark]
  constructor
  · rintro ⟨verb, known, text, body, spelled, cut, word, rest, unbroken⟩
    refine ⟨⟨⟨verb, known, ?_⟩, word, unbroken⟩, ?_⟩
    · rw [spelled, cut.spelled]
      rcases (withoutFinalBreak_eq_iff unbroken).1 rest with rfl | rfl
      · exact ⟨[], by simp, by simp⟩
      · exact ⟨['\n'], by simp, rfl⟩
    · intro other cut'
      obtain ⟨verb', known', ending, -, spelled'⟩ := cut'.spelled
      obtain ⟨-, same⟩ := eq_of_verb_append_eq known known' (spelled.symm.trans spelled')
      exact cut.length_le same
  · intro shortest
    obtain ⟨verb, known, ending, last, spelled⟩ := shortest.cut.spelled
    refine ⟨verb, known, _, parts.criteria ++ ending, spelled, ⟨rfl, ?_⟩, shortest.cut.subject, ?_,
      shortest.cut.unbroken⟩
    · intro marked
      obtain ⟨other, cut, shorter⟩ := shortest.cut.exists_shorter marked
      exact absurd (shortest.shortest other cut) (Nat.not_le.2 shorter)
    · apply (withoutFinalBreak_eq_iff shortest.cut.unbroken).2
      simpa using last

/-! ### Names with a given subject -/

theorem withoutFinalBreak_append {body : List Char} (nonempty : body ≠ []) (front : List Char) :
    withoutFinalBreak (front ++ body) = front ++ withoutFinalBreak body := by
  unfold withoutFinalBreak
  rw [List.getLast?_append_of_ne_nil _ nonempty]
  split
  · exact List.dropLast_append_of_ne_nil nonempty
  · rfl

/-- A name that can be cut has no line break before its end. -/
theorem IsCutOf.unbroken_name {name : List Char} (cut : parts.IsCutOf name) :
    '\n' ∉ withoutFinalBreak name := by
  obtain ⟨verb, known, ending, last, rfl⟩ := cut.spelled
  have plain : ∀ verb ∈ finderVerbs, '\n' ∉ verb.toList := by decide
  have unbroken :
      '\n' ∉ verb.toList ++ (parts.subject ++ (criteriaMark ++ parts.criteria)) := by
    simp only [List.mem_append, not_or]
    exact ⟨plain verb known, newline_notMem_of_isSubject cut.subject, by decide, cut.unbroken⟩
  have rest : withoutFinalBreak (verb.toList ++
      (parts.subject ++ (criteriaMark ++ (parts.criteria ++ ending)))) =
        verb.toList ++ (parts.subject ++ (criteriaMark ++ parts.criteria)) :=
    (withoutFinalBreak_eq_iff unbroken).2 (by simpa using last)
  rwa [rest]

/-- A name with a given subject is cut behind it.  Where the cut fails, no other cut is any better. -/
theorem ofName?_named {verb : String} (known : verb ∈ finderVerbs) {subject body : List Char}
    (word : IsSubject subject) (unmarked : ¬criteriaMark <:+: subject)
    (spelled : name.toList = verb.toList ++ (subject ++ (criteriaMark ++ body))) :
    ofName? name =
      if '\n' ∈ withoutFinalBreak body then none
      else some ⟨subject, withoutFinalBreak body⟩ := by
  split
  · next broken =>
      rw [Option.eq_none_iff_forall_ne_some]
      intro parts found
      have unbroken := (ofName?_eq_some_iff.1 found).cut.unbroken_name
      have nonempty : body ≠ [] := by
        rintro rfl
        simp [withoutFinalBreak] at broken
      rw [spelled, ← List.append_assoc, ← List.append_assoc,
        withoutFinalBreak_append nonempty] at unbroken
      exact unbroken (List.mem_append_right _ broken)
  · next unbroken =>
      apply ofName?_eq_some_iff_cutAtMark.2
      exact ⟨verb, known, _, body, spelled, ⟨rfl, unmarked⟩, word, rfl, unbroken⟩

end FinderParts

/-! ### Subjects without a request -/

/-- A text that starts with a limit: `First` or `Top` and a number, which may be missing, with a capital
letter or the end behind it. -/
def StartsWithLimit (text : List Char) : Prop :=
  ∃ word ∈ ["First", "Top"], ∃ digits rest, text = word.toList ++ (digits ++ rest) ∧
    (∀ d ∈ digits, isDecimalDigit d = true) ∧ ∀ c ∈ rest.head?, c.isUpper = true

/-- A text that holds a limit. -/
def LimitsResults (subject : List Char) : Prop :=
  ∃ front text, subject = front ++ text ∧ StartsWithLimit text

theorem isDecimalDigit_eq_false_of_isUpper {c : Char} (capital : c.isUpper = true) :
    isDecimalDigit c = false := by
  have apart : ∀ first ∈ Word.decimalZeros, first + 10 ≤ 'A'.toNat ∨ 'Z'.toNat < first := by
    decide +kernel
  have range : 'A'.toNat ≤ c.toNat ∧ c.toNat ≤ 'Z'.toNat := by
    have both : c.val ≥ 'A'.val ∧ c.val ≤ 'Z'.val := of_decide_eq_true capital
    exact ⟨UInt32.le_iff_toNat_le.1 both.1, UInt32.le_iff_toNat_le.1 both.2⟩
  rw [isDecimalDigit, decimalDigit?, Option.isSome_eq_false_iff, Option.isNone_iff_eq_none,
    List.findSome?_eq_none_iff]
  intro first listed
  apply if_neg
  have := apart first listed
  omega

/-- The digits behind the word are taken one and all: no capital letter is a digit. -/
theorem dropWhile_isDecimalDigit_append {digits rest : List Char}
    (numeral : ∀ d ∈ digits, isDecimalDigit d = true) (capital : ∀ c ∈ rest.head?, c.isUpper = true) :
    (digits ++ rest).dropWhile isDecimalDigit = rest := by
  rw [List.dropWhile_append_of_pos numeral]
  cases rest with
  | nil => rfl
  | cons c more =>
      have other := isDecimalDigit_eq_false_of_isUpper (capital c rfl)
      exact List.dropWhile_cons_of_neg (by simp [other])

theorem startsWithLimit_iff {text : List Char} :
    startsWithLimit text = true ↔ StartsWithLimit text := by
  rw [startsWithLimit, List.any_eq_true]
  refine exists_congr fun word => and_congr_right fun _ => ?_
  constructor
  · intro limits
    split at limits
    · cases limits
    · next rest after =>
        refine ⟨rest.takeWhile isDecimalDigit, rest.dropWhile isDecimalDigit, ?_, ?_, ?_⟩
        · rw [List.takeWhile_append_dropWhile]
          exact afterPrefix?_eq_some_iff.1 after
        · exact fun d inside => List.mem_takeWhile_imp inside
        · intro c head
          split at limits
          · next empty => simp [empty] at head
          · next d more same =>
              rw [same, List.head?_cons, Option.mem_some] at head
              exact head ▸ limits
  · rintro ⟨digits, rest, spelled, numeral, capital⟩
    rw [afterPrefix?_eq_some_iff.2 spelled]
    dsimp only
    rw [dropWhile_isDecimalDigit_append numeral capital]
    split
    · rfl
    · next c more => exact capital c rfl

theorem hasLimit_iff {subject : List Char} : hasLimit subject = true ↔ LimitsResults subject := by
  induction subject with
  | nil =>
      constructor
      · intro limits
        cases limits
      · rintro ⟨front, text, same, word, known, digits, rest, spelled, -⟩
        obtain ⟨-, rfl⟩ := List.append_eq_nil_iff.1 same.symm
        have empty := (List.append_eq_nil_iff.1 spelled.symm).1
        have nonempty : ∀ word ∈ ["First", "Top"], word.toList ≠ [] := by decide
        exact absurd empty (nonempty word known)
  | cons c rest ih =>
      rw [hasLimit, Bool.or_eq_true, startsWithLimit_iff, ih]
      constructor
      · rintro (starts | ⟨front, text, rfl, starts⟩)
        · exact ⟨[], c :: rest, rfl, starts⟩
        · exact ⟨c :: front, text, rfl, starts⟩
      · rintro ⟨front, text, same, starts⟩
        cases front with
        | nil => exact .inl (same ▸ starts)
        | cons d more =>
            obtain ⟨-, rfl⟩ := List.cons_eq_cons.1 same
            exact .inr ⟨more, text, rfl, starts⟩

/-- A subject that asks for nothing: it holds no mark, no limit and no `Distinct`. -/
structure IsPlainSubject (subject : List Char) : Prop where
  word : FinderParts.IsSubject subject
  unmarked : ¬criteriaMark <:+: subject
  indistinct : ¬"Distinct".toList <:+: subject
  unlimited : ¬LimitsResults subject

/-- No subject is a plain one. -/
theorem IsPlainSubject.none : IsPlainSubject [] := by
  refine ⟨trivial, by decide, by decide, ?_⟩
  intro limits
  exact absurd (hasLimit_iff.2 limits) (by decide)

theorem Text.occursIn_iff {part text : List Char} : occursIn part text = true ↔ part <:+: text := by
  induction text with
  | nil => simp [occursIn]
  | cons c rest ih =>
      rw [occursIn, Bool.or_eq_true, ih, List.isPrefixOf_iff_prefix, List.infix_cons_iff]

/-- The criteria of a name with a plain subject are settled by what stands behind the mark. -/
theorem criteriaOf_named {verb name : String} (known : verb ∈ finderVerbs)
    {subject body : List Char} (plain : IsPlainSubject subject)
    (spelled : name.toList = verb.toList ++ (subject ++ (criteriaMark ++ body))) :
    criteriaOf name =
      if '\n' ∈ FinderParts.withoutFinalBreak body then .error .malformed
      else if "OrderBy".toList <:+: FinderParts.withoutFinalBreak body then .error .sorted
      else if FinderParts.withoutFinalBreak body = [] then .error .noCriteria
      else .ok (FinderParts.withoutFinalBreak body) := by
  have unlimited : ¬hasLimit subject = true := fun limits => plain.unlimited (hasLimit_iff.1 limits)
  have indistinct : ¬occursIn "Distinct".toList subject = true :=
    fun occurs => plain.indistinct (Text.occursIn_iff.1 occurs)
  rw [criteriaOf, FinderParts.ofName?_named known plain.word plain.unmarked spelled]
  by_cases broken : '\n' ∈ FinderParts.withoutFinalBreak body
  · rw [if_pos broken, if_pos broken]
  · rw [if_neg broken, if_neg broken]
    dsimp only
    rw [if_neg unlimited, if_neg indistinct]
    simp only [Text.occursIn_iff]

/-! ### Finders -/

namespace Finder

/-- Names with the same criteria read alike. -/
theorem parse_of_criteriaOf_eq (entity : Entity) {descriptor other : String}
    (same : criteriaOf descriptor = criteriaOf other) :
    (∃ finder finder', parse entity descriptor = .ok finder ∧ parse entity other = .ok finder' ∧
        finder.predicate = finder'.predicate ∧ finder.parameters = finder'.parameters) ∨
      ∃ fault, parse entity descriptor = .error ⟨descriptor, fault⟩ ∧
        parse entity other = .error ⟨other, fault⟩ := by
  unfold parse
  rw [same]
  split
  · next fault _ => exact .inr ⟨.subject fault, rfl, rfl⟩
  · split
    · next failure _ => exact .inr ⟨.criteria failure.fault, rfl, rfl⟩
    · exact .inr ⟨.unreadable, rfl, rfl⟩
    · next criteria _ =>
        unfold ofCriteria
        split
        · exact .inr ⟨.mixedConnectives, rfl, rfl⟩
        · exact .inl ⟨_, _, rfl, rfl, rfl, rfl⟩

/-- What kind of complaint there is about a name depends on its fault alone. -/
theorem code_report_eq (fault : FinderFault) (descriptor other : String) :
    (FinderError.report ⟨descriptor, fault⟩).code = (FinderError.report ⟨other, fault⟩).code := by
  cases fault with
  | subject fault => cases fault <;> rfl
  | criteria fault => cases fault <;> rfl
  | unreadable => rfl
  | mixedConnectives => rfl

/-- A name with a plain subject reads like the name that has none: both are finders with the same
predicate and placeholders, or both have the same fault. -/
theorem parse_regardless_of_subject (entity : Entity) {verb subject : String}
    (known : verb ∈ finderVerbs) (plain : IsPlainSubject subject.toList) (body : String) :
    (∃ finder finder', parse entity (verb ++ subject ++ "By" ++ body) = .ok finder ∧
        parse entity ("findBy" ++ body) = .ok finder' ∧
        finder.predicate = finder'.predicate ∧ finder.parameters = finder'.parameters) ∨
      ∃ error error', parse entity (verb ++ subject ++ "By" ++ body) = .error error ∧
        parse entity ("findBy" ++ body) = .error error' ∧
        error.fault = error'.fault ∧ error.report.code = error'.report.code := by
  have spelled : (verb ++ subject ++ "By" ++ body).toList =
      verb.toList ++ (subject.toList ++ (criteriaMark ++ body.toList)) := by
    simp only [String.toList_append, List.append_assoc]
    rfl
  have spelled' : ("findBy" ++ body).toList =
      "find".toList ++ ([] ++ (criteriaMark ++ body.toList)) := by
    rw [String.toList_append]
    rfl
  have same : criteriaOf (verb ++ subject ++ "By" ++ body) = criteriaOf ("findBy" ++ body) := by
    rw [criteriaOf_named known plain spelled, criteriaOf_named (by decide) .none spelled']
  rcases parse_of_criteriaOf_eq entity same with read | ⟨fault, failed, failed'⟩
  · exact .inl read
  · exact .inr ⟨_, _, failed, failed', rfl, code_report_eq fault _ _⟩

/-- A subject may end with the first letter of the mark. -/
theorem parse_regardless_of_subject_item :
    "search" ∈ finderVerbs ∧ IsPlainSubject "B".toList ∧
      ∃ finder, parse .item ("search" ++ "B" ++ "By" ++ "CodeNotNull") = .ok finder := by
  have known : "search" ∈ finderVerbs := by decide
  have plain : IsPlainSubject "B".toList := by
    have letters : "B".toList = ['B'] := rfl
    refine ⟨letters ▸ ⟨by decide, by simp⟩, by decide, by decide, ?_⟩
    intro limits
    exact absurd (hasLimit_iff.2 limits) (by decide)
  refine ⟨known, plain, ?_⟩
  obtain ⟨finder, found⟩ := Entity.exists_parse_codeNotNull
  rcases parse_regardless_of_subject .item known plain "CodeNotNull" with
    ⟨finder', -, read, -⟩ | ⟨-, error, -, failed, -⟩
  · exact ⟨finder', read⟩
  · exact absurd (found.symm.trans failed) (by simp)

end Finder

end DirectoryQuery

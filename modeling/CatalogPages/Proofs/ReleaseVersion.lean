/-
**Which version a text declares.**

A line of five words declares a version, and the first such line of a text counts. White space makes
no difference beyond keeping words apart, and neither do the lines before and after.

* `Declares`: a line and the version that it declares;
* `Derived`: a version with the texts that are derived from it;
* `parse_ok_iff`: a version is found where a first line declares it;
* `Declaration.declares`: the white space around and between the words may be any;
* `parse_first_declared`: with these, which texts declare a version and which one it is.
-/

import CatalogPages.Proofs.Text.LinesAndWords
import CatalogPages.ReleaseVersion
import Mathlib.Data.List.Forall2

namespace CatalogPages.ReleaseVersion

open Text (IsWord Spaced Lined)

/-! ### One line -/

/-- A line declares the version that is the fourth of its five words. -/
def Declares (line version : List Char) : Prop :=
  Spaced line ["constant".toList, "BOOST_VERSION".toList, [':'], version, [';']]

theorem declared?_eq_some_iff (line version : List Char) :
    declared? line = some version ↔ Declares line version := by
  unfold Declares declared?
  rw [Text.spaced_iff]
  constructor
  · intro declared
    split at declared
    · next words =>
      split at declared
      · next marks =>
        obtain ⟨rfl, rfl, rfl, rfl⟩ := marks
        cases declared
        exact words
      · cases declared
    · cases declared
  · intro words
    rw [words]
    exact if_pos ⟨rfl, rfl, rfl, rfl⟩

theorem declared?_eq_none_iff (line : List Char) :
    declared? line = none ↔ ∀ version, ¬ Declares line version := by
  rw [Option.eq_none_iff_forall_ne_some]
  exact forall_congr' fun version => not_congr (declared?_eq_some_iff line version)

/-! ### A version with its texts -/

/-- A version and what is derived from it: every period is an underscore, all else is as it was, and
this is a part of the link to the notes. -/
structure Derived (base : String) (version : List Char) (release : ReleaseVersion) : Prop where
  declared : release.version.toList = version
  underscored : List.Forall₂ (fun c d => c = '.' ∧ d = '_' ∨ c ≠ '.' ∧ d = c) version
    release.underscored.toList
  notes : release.releaseNotesUrl = base ++ "version_" ++ release.underscored ++ ".html"

theorem forall₂_underscored_iff (version other : List Char) :
    List.Forall₂ (fun c d => c = '.' ∧ d = '_' ∨ c ≠ '.' ∧ d = c) version other ↔
      other = version.map fun c => if c = '.' then '_' else c := by
  have one (c d : Char) : (c = '.' ∧ d = '_' ∨ c ≠ '.' ∧ d = c) ↔
      (if c = '.' then '_' else c) = d := by
    split
    · next isPeriod => simp [isPeriod, eq_comm]
    · next other => simp [other, eq_comm]
  simp only [one]
  rw [← List.forall₂_map_left_iff, List.forall₂_eq_eq_eq, eq_comm]

theorem derived_iff (base : String) (version : List Char) (release : ReleaseVersion) :
    Derived base version release ↔ release = ofText base version := by
  constructor
  · rintro ⟨rfl, underscored, notes⟩
    have same := (forall₂_underscored_iff ..).mp underscored
    obtain ⟨version, underscores, url⟩ := release
    simp only [ofText, ReleaseVersion.mk.injEq]
    refine ⟨String.ofList_toList.symm, ?_, ?_⟩
    · rw [← same, String.ofList_toList]
    · rw [← same, String.ofList_toList]
      exact notes
  · rintro rfl
    exact ⟨String.toList_ofList, (forall₂_underscored_iff ..).mpr String.toList_ofList, rfl⟩

/-! ### The first line that counts -/

/-- The first line of a text that declares a version declares this one. -/
def FirstDeclared (content version : List Char) : Prop :=
  ∃ before line after, Lined content (before ++ line :: after) ∧
    (∀ earlier ∈ before, ∀ other, ¬ Declares earlier other) ∧ Declares line version

theorem findSome?_lines_eq_some_iff (content version : List Char) :
    (Text.lines content).findSome? declared? = some version ↔ FirstDeclared content version := by
  rw [List.findSome?_eq_some_iff]
  unfold FirstDeclared
  refine exists_congr fun before => exists_congr fun line => exists_congr fun after => ?_
  rw [Text.lined_iff, declared?_eq_some_iff]
  simp only [declared?_eq_none_iff]
  tauto

/-- **A version is found where a first line declares it.** -/
theorem parse_ok_iff (content base : String) (release : ReleaseVersion) :
    parse content base = .ok release ↔
      ∃ version, FirstDeclared content.toList version ∧ Derived base version release := by
  simp only [← findSome?_lines_eq_some_iff, derived_iff]
  unfold parse
  cases (Text.lines content.toList).findSome? declared? with
  | none => simp
  | some version => simp [eq_comm]

/-- A text with a line that declares a version has a first one. -/
theorem exists_firstDeclared_iff (content : List Char) :
    (∃ version, FirstDeclared content version) ↔
      ∃ lines, Lined content lines ∧ ∃ line ∈ lines, ∃ version, Declares line version := by
  constructor
  · rintro ⟨version, before, line, after, lined, -, declares⟩
    exact ⟨_, lined, line, by simp, version, declares⟩
  · rintro ⟨lines, lined, line, member, version, declares⟩
    obtain rfl := lined.lines_eq
    have found := (declared?_eq_some_iff ..).mpr declares
    have some : ((Text.lines content).findSome? declared?).isSome := by
      rw [List.findSome?_isSome_iff]
      exact ⟨line, member, by rw [found]; rfl⟩
    obtain ⟨first, isFirst⟩ := Option.isSome_iff_exists.mp some
    exact ⟨first, (findSome?_lines_eq_some_iff ..).mp isFirst⟩

/-! ### White space -/

/-- White space within a line. -/
structure IsGap (gap : List Char) : Prop where
  blank : ∀ c ∈ gap, Text.isBlank c = true
  unbroken : '\n' ∉ gap

instance (gap : List Char) : Decidable (IsGap gap) :=
  decidable_of_iff (gap.all Text.isBlank = true ∧ '\n' ∉ gap)
    ⟨fun ⟨blank, unbroken⟩ => ⟨by simpa using blank, unbroken⟩,
      fun isGap => ⟨by simpa using isGap.blank, isGap.unbroken⟩⟩

/-- A line that declares a version: the five words with white space around and between them. -/
inductive Declaration (version : List Char) : List Char → Prop
  | intro {front first second third fourth back : List Char}
      (gaps : ∀ gap ∈ [front, first, second, third, fourth, back], IsGap gap)
      (apart : ∀ gap ∈ [first, second, third, fourth], gap ≠ []) :
      Declaration version (front ++ ("constant".toList ++ (first ++ ("BOOST_VERSION".toList ++
        (second ++ ([':'] ++ (third ++ (version ++ (fourth ++ ([';'] ++ back))))))))))

theorem unbroken_of_isWord {word : List Char} (isWord : IsWord word) : '\n' ∉ word := by
  intro member
  cases isWord.solid _ member

theorem isWord_constant : IsWord "constant".toList := by decide

theorem isWord_name : IsWord "BOOST_VERSION".toList := by decide

namespace Declaration

variable {version line : List Char}

/-- **Whatever the white space is, the version is declared.** -/
theorem declares (isWord : IsWord version) (declaration : Declaration version line) :
    Declares line version := by
  cases declaration with
  | @intro front first second third fourth back gaps apart =>
    simp only [List.forall_mem_cons, List.not_mem_nil, false_implies, implies_true, and_true]
      at gaps apart
    obtain ⟨frontGap, firstGap, secondGap, thirdGap, fourthGap, backGap⟩ := gaps
    obtain ⟨firstSome, secondSome, thirdSome, fourthSome⟩ := apart
    have last : Spaced ([';'] ++ back) [[';']] :=
      .word (.singleton (by rfl)) (fun c first => backGap.blank c (List.mem_of_head? first))
        (.of_blank backGap.blank)
    refine .gap frontGap.blank ?_
    refine .wordGap isWord_constant firstSome firstGap.blank ?_
    refine .wordGap isWord_name secondSome secondGap.blank ?_
    refine .wordGap (.singleton (by rfl)) thirdSome thirdGap.blank ?_
    exact .wordGap isWord fourthSome fourthGap.blank last

/-- A declaration stands on one line. -/
theorem unbroken (isWord : IsWord version) (declaration : Declaration version line) :
    '\n' ∉ line := by
  cases declaration with
  | intro gaps apart =>
    simp only [List.forall_mem_cons, List.not_mem_nil, false_implies, implies_true, and_true]
      at gaps
    obtain ⟨front, first, second, third, fourth, back⟩ := gaps
    simp only [List.mem_append, not_or]
    exact ⟨front.unbroken, unbroken_of_isWord isWord_constant, first.unbroken,
      unbroken_of_isWord isWord_name, second.unbroken, by decide, third.unbroken,
      unbroken_of_isWord isWord, fourth.unbroken, by decide, back.unbroken⟩

end Declaration

theorem Declares.nonempty {line version : List Char} (declares : Declares line version) :
    line ≠ [] := by
  rintro rfl
  cases declares.words_eq

/-- Behind lines that declare nothing, a declaration is the first one. -/
theorem firstDeclared_of_declaration {preceding line following version : List Char}
    {before : List (List Char)} (lined : Lined preceding before) (ended : Text.Ended preceding)
    (none : ∀ earlier ∈ before, ∀ other, ¬ Declares earlier other) (isWord : IsWord version)
    (declaration : Declaration version line) (breaks : ∀ c ∈ following.head?, c = '\n') :
    FirstDeclared (preceding ++ (line ++ following)) version := by
  have declares := declaration.declares isWord
  obtain ⟨first, after, later, sameWords⟩ :=
    Text.exists_lined_of_line declares.nonempty (declaration.unbroken isWord) breaks
  refine ⟨before, first, after, lined.append ended later, none, ?_⟩
  unfold Declares at declares ⊢
  rw [Text.spaced_iff] at declares ⊢
  rw [sameWords, declares]

/-- **A version is what the first line of five words declares.** It is found where there is such a
line, and together with the texts that are derived from it. So any version is found, with any white
space around and between the words of its line, behind lines that declare nothing and in front of
whatever follows a line break. -/
theorem parse_first_declared (content base : String) :
    ((∃ release, parse content base = .ok release) ↔
      ∃ lines, Lined content.toList lines ∧ ∃ line ∈ lines, ∃ version, Declares line version) ∧
    (∀ release, parse content base = .ok release ↔
      ∃ version, FirstDeclared content.toList version ∧ Derived base version release) ∧
    ∀ preceding before line following version, Lined preceding before → Text.Ended preceding →
      (∀ earlier ∈ before, ∀ other, ¬ Declares earlier other) → IsWord version →
      Declaration version line → (∀ c ∈ following.head?, c = '\n') →
      content.toList = preceding ++ (line ++ following) →
      ∃ release, parse content base = .ok release ∧ Derived base version release := by
  refine ⟨?_, parse_ok_iff content base, ?_⟩
  · rw [← exists_firstDeclared_iff]
    simp only [parse_ok_iff]
    constructor
    · rintro ⟨_, version, first, -⟩
      exact ⟨version, first⟩
    · rintro ⟨version, first⟩
      exact ⟨_, version, first, (derived_iff ..).mpr rfl⟩
  · intro preceding before line following version lined ended none isWord declaration breaks whole
    have first : FirstDeclared content.toList version :=
      whole ▸ firstDeclared_of_declaration lined ended none isWord declaration breaks
    have derived : Derived base version (ofText base version) := (derived_iff ..).mpr rfl
    exact ⟨_, (parse_ok_iff ..).mpr ⟨version, first, derived⟩, derived⟩

/-- A line that declares nothing. -/
def nearMiss : List Char := "constant BOOST_VERSION : ;\r\n".toList

/-- A declaration between other white space. -/
def spacedOut : List Char :=
  ['\u00a0'] ++ ("constant".toList ++ (['\t'] ++ ("BOOST_VERSION".toList ++ ([' '] ++ ([':'] ++
    ([' '] ++ ("1.86".toList ++ ([' '] ++ ([';'] ++ ['\u000b', '\r'])))))))))

/-- The second line declares the version. -/
theorem parse_first_declared_secondLine :
    Declaration "1.86".toList spacedOut ∧
      parse (String.ofList (nearMiss ++ (spacedOut ++ "\nend".toList))) "notes/" = .ok
        { version := "1.86"
          underscored := "1_86"
          releaseNotesUrl := "notes/version_1_86.html" } := by
  have declaration : Declaration "1.86".toList spacedOut := .intro (by decide) (by decide)
  have lined : Lined nearMiss ["constant BOOST_VERSION : ;".toList] :=
    @Lined.returnFeed "constant BOOST_VERSION : ;".toList [] [] (by decide) .nil
  have ended : Text.Ended nearMiss := by
    rintro c ⟨⟩
    rfl
  have breaks : ∀ c ∈ "\nend".toList.head?, c = '\n' := by
    rintro c ⟨⟩
    rfl
  have none : ∀ earlier ∈ ["constant BOOST_VERSION : ;".toList],
      ∀ other, ¬ Declares earlier other := by
    intro earlier member
    rw [List.mem_singleton.mp member]
    exact (declared?_eq_none_iff _).mp (by decide)
  obtain ⟨-, -, finds⟩ :=
    parse_first_declared (String.ofList (nearMiss ++ (spacedOut ++ "\nend".toList))) "notes/"
  obtain ⟨release, parses, derived⟩ := finds nearMiss _ spacedOut "\nend".toList "1.86".toList
    lined ended none (by decide) declaration breaks String.toList_ofList
  refine ⟨declaration, ?_⟩
  rw [parses, (derived_iff ..).mp derived]
  rfl

end CatalogPages.ReleaseVersion

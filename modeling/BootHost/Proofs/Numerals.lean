import BootHost.Setup.Number
import Mathlib.Data.List.Forall2
import Mathlib.Data.List.TakeWhile
import Mathlib.Data.Nat.Digits.Defs
import Mathlib.Tactic.IntervalCases

/-!
# What is read as a number

The texts that stand for a number, told without the reader (`Denotes`): one digit or more, behind a plus
sign at most, with the value that they have in their base. The reader accepts just these, as long as the
value is below its limit (`read_eq_ok_iff`). Around that go the layers of the notation: the blanks on both
ends (`Trimmed`), the mark of a hexadecimal number (`Unmarks`) and the underscores. Each number that is
printed in one of the two bases, and dressed up in any of these ways, is read back (`denotes_of_prints`).
-/

namespace BootHost

namespace Text

/-- A text without the blanks on its two ends. -/
structure Trimmed (text s : List Char) : Prop where
  around : ∃ front back, text = front ++ s ++ back ∧ (∀ c ∈ front, isBlank c = true) ∧
    ∀ c ∈ back, isBlank c = true
  first : ∀ c ∈ s.head?, isBlank c = false
  last : ∀ c ∈ s.getLast?, isBlank c = false

/-- No blank is in front of what is left when those in front are dropped. -/
theorem head?_dropWhile_isBlank (text : List Char) :
    ∀ c ∈ (text.dropWhile isBlank).head?, isBlank c = false := by
  intro c hc
  have first := List.head?_dropWhile_not isBlank text
  rw [Option.mem_def.1 hc] at first
  exact first

theorem trimmed_trim (text : List Char) : Trimmed text (trim text) := by
  let rest := text.dropWhile isBlank
  let front := text.takeWhile isBlank
  let back := (rest.reverse.takeWhile isBlank).reverse
  have behind : rest = trim text ++ back := by
    apply List.reverse_injective
    rw [List.reverse_append, trim, List.reverse_reverse, List.reverse_reverse]
    exact List.takeWhile_append_dropWhile.symm
  constructor
  case around =>
    refine ⟨front, back, ?_, ?_, ?_⟩
    · rw [List.append_assoc, ← behind]
      exact List.takeWhile_append_dropWhile.symm
    · exact fun c hc => List.mem_takeWhile_imp hc
    · exact fun c hc => List.mem_takeWhile_imp (List.mem_reverse.1 hc)
  case first =>
    intro c hc
    apply head?_dropWhile_isBlank text
    rw [show text.dropWhile isBlank = trim text ++ back from behind]
    rw [List.head?_append, Option.mem_def.1 hc]
    rfl
  case last =>
    intro c hc
    rw [trim, List.getLast?_reverse] at hc
    exact head?_dropWhile_isBlank _ c hc

/-- Only one text is another without the blanks on its two ends. -/
theorem Trimmed.trim_eq {text s : List Char} (h : Trimmed text s) : trim text = s := by
  obtain ⟨⟨front, back, rfl, blank, blank'⟩, first, last⟩ := h
  have dropped {t : List Char} (edge : ∀ c ∈ t.head?, isBlank c = false) : t.dropWhile isBlank = t := by
    cases t with
    | nil => rfl
    | cons c t => rw [List.dropWhile_cons, edge c rfl]; rfl
  have ending : ∀ c ∈ s.reverse.head?, isBlank c = false := by
    rwa [List.head?_reverse]
  cases s with
  | nil =>
    have all : ∀ c ∈ front ++ [] ++ back, isBlank c = true := by
      intro c hc
      rw [List.append_nil, List.mem_append] at hc
      exact hc.elim (blank c) (blank' c)
    rw [trim, List.dropWhile_eq_nil_iff.2 all]
    rfl
  | cons c s =>
    have start : (c :: s ++ back).dropWhile isBlank = c :: s ++ back := dropped first
    rw [trim, List.append_assoc, List.dropWhile_append_of_pos blank, start, List.reverse_append,
      List.dropWhile_append_of_pos fun c hc => blank' c (List.mem_reverse.1 hc), dropped ending,
      List.reverse_reverse]

/-- Trimming is over once it was done. -/
theorem trim_trim (text : List Char) : trim (trim text) = trim text := by
  have trimmed := trimmed_trim text
  apply Trimmed.trim_eq
  refine ⟨⟨[], [], ?_, nofun, nofun⟩, trimmed.first, trimmed.last⟩
  rw [List.nil_append, List.append_nil]

namespace Numeral

variable {base limit n : Nat} {c : Char} {d : Nat} {s text digits : List Char}

/-- A character stands for a value below a base, letters in either case. -/
def Figure (base : Nat) (c : Char) (d : Nat) : Prop :=
  d < base ∧ (c = d.digitChar ∨ c = d.digitChar.toUpper)

/-- A text stands for a number: some digits, behind a plus sign or not. -/
inductive Denotes (base : Nat) : List Char → Nat → Prop where
  | plain {digits : List Char} {values : List Nat} : digits ≠ [] → List.Forall₂ (Figure base) digits values →
      Denotes base digits (Nat.ofDigits base values.reverse)
  | signed {digits : List Char} {values : List Nat} : digits ≠ [] → List.Forall₂ (Figure base) digits values →
      Denotes base ('+' :: digits) (Nat.ofDigits base values.reverse)

/-- A text carries the mark of a hexadecimal number. -/
def Marks (s rest : List Char) : Prop := s = '0' :: 'x' :: rest ∨ s = '0' :: 'X' :: rest

/-- A text without the mark of a hexadecimal number, if it has one. -/
inductive Unmarks (s : List Char) : List Char → Prop where
  | marked {rest : List Char} : Marks s rest → Unmarks s rest
  | bare : (∀ rest, ¬ Marks s rest) → Unmarks s s

/-- A number printed in a base, each letter in either case. -/
def Prints (base n : Nat) (digits : List Char) : Prop :=
  List.Forall₂ (fun c digit => c = digit ∨ c = digit.toUpper) digits (Nat.toDigits base n)

/-- Some digits behind a mark, with underscores anywhere between and around them, and blanks around all. -/
def Dresses (mark digits text : List Char) : Prop :=
  ∃ front body back, text = front ++ (mark ++ body) ++ back ∧ (∀ c ∈ front, isBlank c = true) ∧
    (∀ c ∈ back, isBlank c = true) ∧ body.filter (· != '_') = digits

/-- The places of the three ranges of digits. -/
theorem toNat_of_ranges : '0'.toNat = 48 ∧ 'a'.toNat = 97 ∧ 'A'.toNat = 65 := ⟨rfl, rfl, rfl⟩

/-- The bases up to sixteen share their digits. -/
theorem digit?_eq_some_iff (small : base ≤ 16) :
    digit? base c = some d ↔ digit? 16 c = some d ∧ d < base := by
  simp only [digit?, toNat_of_ranges]
  split_ifs <;> simp <;> omega

theorem digit?_digitChar :
    ∀ d < 16, digit? 16 d.digitChar = some d ∧ digit? 16 d.digitChar.toUpper = some d := by
  decide

/-- A character is known by its place behind another one. -/
theorem eq_ofNat {c low : Char} (h : low ≤ c) : c = Char.ofNat (low.toNat + (c.toNat - low.toNat)) := by
  have place : low.toNat + (c.toNat - low.toNat) = c.toNat := Nat.add_sub_cancel' h
  rw [place, Char.ofNat_toNat]

/-- A digit is what the figure of its value looks like, in one of the two cases. -/
theorem figure_of_digit? (h : digit? 16 c = some d) : Figure 16 c d := by
  have numbers : ∀ k < 10, Char.ofNat ('0'.toNat + k) = k.digitChar := by decide
  have small : ∀ k < 6, Char.ofNat ('a'.toNat + k) = (k + 10).digitChar := by decide
  have great : ∀ k < 6, Char.ofNat ('A'.toNat + k) = (k + 10).digitChar.toUpper := by decide
  unfold digit? at h
  dsimp only at h
  split_ifs at h with number fits letter fits capital fits fits
  · obtain rfl := Option.some.inj h
    have upTo : c.toNat ≤ 57 := number.2
    have place : c.toNat - '0'.toNat < 10 := by
      rw [toNat_of_ranges.1]
      omega
    exact ⟨fits, .inl ((eq_ofNat number.1).trans (numbers _ place))⟩
  · obtain rfl := Option.some.inj h
    exact ⟨fits, .inl ((eq_ofNat letter.1).trans (small _ (Nat.add_lt_add_iff_right.1 fits)))⟩
  · obtain rfl := Option.some.inj h
    exact ⟨fits, .inr ((eq_ofNat capital.1).trans (great _ (Nat.add_lt_add_iff_right.1 fits)))⟩
  · exact absurd fits (Nat.lt_irrefl 16)

/-- The digits are the figures. -/
theorem digit?_iff (small : base ≤ 16) : digit? base c = some d ↔ Figure base c d := by
  rw [digit?_eq_some_iff small]
  constructor
  · rintro ⟨digit, below⟩
    exact ⟨below, (figure_of_digit? digit).2⟩
  · rintro ⟨below, rfl | rfl⟩
    · exact ⟨(digit?_digitChar d (Nat.lt_of_lt_of_le below small)).1, below⟩
    · exact ⟨(digit?_digitChar d (Nat.lt_of_lt_of_le below small)).2, below⟩

/-- What digits behind a number stand for. -/
theorem ofDigits_behind (m d : Nat) (values : List Nat) :
    Nat.ofDigits base ((d :: values).reverse ++ [m]) =
      Nat.ofDigits base (values.reverse ++ [m * base + d]) := by
  simp only [List.reverse_cons, List.append_assoc, List.singleton_append, Nat.ofDigits_append,
    Nat.ofDigits_cons, Nat.ofDigits_nil]
  ring

/-- They stand for no less than the number they are behind. -/
theorem le_ofDigits_behind (positive : 0 < base) (m : Nat) (values : List Nat) :
    m ≤ Nat.ofDigits base (values.reverse ++ [m]) := by
  rw [Nat.ofDigits_append, Nat.ofDigits_singleton]
  have scale : 1 ≤ base ^ values.reverse.length := Nat.pow_pos positive
  calc m = 1 * m := (Nat.one_mul m).symm
    _ ≤ base ^ values.reverse.length * m := Nat.mul_le_mul_right m scale
    _ ≤ _ := Nat.le_add_left ..

/-- A run of digits is read to its value, as long as that is below the limit. -/
theorem extend_eq_ok_iff (positive : 0 < base) (small : base ≤ 16) {m : Nat} (below : m < limit) :
    extend base limit m digits = .ok n ↔
      (∃ values, List.Forall₂ (Figure base) digits values ∧ Nat.ofDigits base (values.reverse ++ [m]) = n) ∧
        n < limit := by
  induction digits generalizing m with
  | nil =>
    constructor
    · intro read
      obtain rfl : m = n := Except.ok.inj read
      exact ⟨⟨[], .nil, Nat.ofDigits_singleton⟩, below⟩
    · rintro ⟨⟨values, figures, rfl⟩, -⟩
      cases figures
      exact congrArg Except.ok Nat.ofDigits_singleton.symm
  | cons c digits ih =>
    rw [extend]
    cases digit : digit? base c with
    | none =>
      dsimp only
      refine iff_of_false (by rintro ⟨⟩) ?_
      rintro ⟨⟨values, figures, -⟩, -⟩
      cases figures with
      | cons figure _ =>
        rw [(digit?_iff small).2 figure] at digit
        cases digit
    | some d =>
      have figure := (digit?_iff small).1 digit
      have same {d' : Nat} (other : Figure base c d') : d' = d :=
        Option.some.inj (((digit?_iff small).2 other).symm.trans digit)
      dsimp only
      split
      · rename_i next
        rw [ih next]
        refine and_congr_left fun _ => ?_
        constructor
        · rintro ⟨values, figures, rfl⟩
          exact ⟨d :: values, .cons figure figures, ofDigits_behind m d values⟩
        · rintro ⟨values, figures, rfl⟩
          cases figures with
          | cons other figures =>
            obtain rfl := same other
            exact ⟨_, figures, (ofDigits_behind m _ _).symm⟩
      · rename_i next
        -- a value only grows with further digits, so one that left the limit does not come back
        refine iff_of_false (by rintro ⟨⟩) ?_
        rintro ⟨⟨values, figures, rfl⟩, fits⟩
        cases figures with
        | @cons _ d' _ values other figures =>
          obtain rfl := same other
          rw [ofDigits_behind] at fits
          exact next (Nat.lt_of_le_of_lt (le_ofDigits_behind positive _ values) fits)

/-- Digits from the left on are read to their value. -/
theorem extend_zero_eq_ok_iff (positive : 0 < base) (small : base ≤ 16) (some : 0 < limit) :
    extend base limit 0 digits = .ok n ↔
      (∃ values, List.Forall₂ (Figure base) digits values ∧ Nat.ofDigits base values.reverse = n) ∧
        n < limit := by
  simp only [extend_eq_ok_iff positive small some, Nat.ofDigits_append_zero]

theorem not_figure_plus (small : base ≤ 16) : ¬ Figure base '+' d := by
  rw [← digit?_iff small, digit?_eq_some_iff small]
  exact fun digit => nomatch digit.1

/-- What is read is what denotes a number below the limit. -/
theorem read_eq_ok_iff (positive : 0 < base) (small : base ≤ 16) (some : 0 < limit) :
    read base limit text = .ok n ↔ Denotes base text n ∧ n < limit := by
  unfold read
  split
  · refine iff_of_false nofun ?_
    rintro ⟨denotes, -⟩
    cases denotes with
    | plain some _ => exact some rfl
  · refine iff_of_false nofun ?_
    rintro ⟨denotes, -⟩
    cases denotes with
    | plain _ figures =>
      cases figures with
      | cons figure _ => exact not_figure_plus small figure
    | signed some _ => exact some rfl
  · rename_i digits lone
    rw [extend_zero_eq_ok_iff positive small some]
    refine and_congr_left fun _ => ?_
    constructor
    · rintro ⟨values, figures, rfl⟩
      refine .signed ?_ figures
      rintro rfl
      exact lone rfl
    · intro denotes
      cases denotes with
      | plain _ figures =>
        cases figures with
        | cons figure _ => exact absurd figure (not_figure_plus small)
      | signed _ figures => exact ⟨_, figures, rfl⟩
  · rename_i empty _ unsigned
    rw [extend_zero_eq_ok_iff positive small some]
    refine and_congr_left fun _ => ?_
    constructor
    · rintro ⟨values, figures, rfl⟩
      exact .plain empty figures
    · intro denotes
      cases denotes with
      | plain _ figures => exact ⟨_, figures, rfl⟩
      | signed _ _ => exact absurd rfl (unsigned _)

/-- The digits that a number is printed with are the figures of its digits. -/
theorem toDigits_eq (several : 1 < base) (n : Nat) :
    ∃ values : List Nat, Nat.toDigits base n = values.map Nat.digitChar ∧ (∀ d ∈ values, d < base) ∧
      Nat.ofDigits base values.reverse = n := by
  induction n using Nat.strongRecOn with
  | ind n ih =>
    rw [Nat.toDigits_eq_if several]
    split
    · rename_i below
      exact ⟨[n], rfl, by simpa using below, Nat.ofDigits_singleton⟩
    · rename_i large
      have positive : 0 < n := by omega
      obtain ⟨values, printed, below, value⟩ := ih (n / base) (Nat.div_lt_self positive several)
      refine ⟨values ++ [n % base], ?_, ?_, ?_⟩
      · rw [printed, List.map_append, List.map_singleton]
      · intro d hd
        rcases List.mem_append.1 hd with earlier | last
        · exact below d earlier
        · obtain rfl := List.mem_singleton.1 last
          exact Nat.mod_lt n (by omega)
      · rw [List.reverse_append, List.reverse_singleton, List.singleton_append, Nat.ofDigits_cons, value]
        exact Nat.mod_add_div n base

/-- A printed number consists of the figures of its digits. -/
theorem figures_of_prints (several : 1 < base) (h : Prints base n digits) :
    ∃ values, List.Forall₂ (Figure base) digits values ∧ Nat.ofDigits base values.reverse = n := by
  obtain ⟨values, printed, below, value⟩ := toDigits_eq several n
  rw [Prints, printed, List.forall₂_map_right_iff] at h
  refine ⟨values, ?_, value⟩
  clear printed value
  induction h with
  | nil => exact .nil
  | cons shown _ ih =>
    rw [List.forall_mem_cons] at below
    exact .cons ⟨below.1, shown⟩ (ih below.2)

theorem Figure.widen (small : base ≤ 16) (h : Figure base c d) : Figure 16 c d :=
  ⟨Nat.lt_of_lt_of_le h.1 small, h.2⟩

/-- Digits that have values are figures. -/
theorem exists_figure {values : List Nat} (small : base ≤ 16) (h : List.Forall₂ (Figure base) digits values) :
    ∀ c ∈ digits, ∃ d, Figure 16 c d := by
  intro c hc
  obtain ⟨i, hi, rfl⟩ := List.getElem_of_mem hc
  have figure := h.get hi (h.length_eq ▸ hi)
  exact ⟨_, figure.widen small⟩

theorem denotes_of_prints (several : 1 < base) (h : Prints base n digits) : Denotes base digits n := by
  obtain ⟨values, figures, rfl⟩ := figures_of_prints several h
  refine .plain ?_ figures
  rintro rfl
  have empty := List.Forall₂.length_eq h
  exact absurd empty.symm (Nat.ne_of_gt Nat.length_toDigits_pos)

theorem isMarked_iff : isMarked s = true ↔ ∃ rest, Marks s rest := by
  unfold isMarked
  split
  · exact iff_of_true rfl ⟨_, .inl rfl⟩
  · exact iff_of_true rfl ⟨_, .inr rfl⟩
  · rename_i lower upper
    refine iff_of_false nofun ?_
    rintro ⟨rest, rfl | rfl⟩
    · exact lower rest rfl
    · exact upper rest rfl

theorem dropMark_of_marks {rest : List Char} (h : Marks s rest) : dropMark s = rest := by
  obtain rfl | rfl := h <;> rfl

theorem dropMark_of_unmarked (h : ∀ rest, ¬ Marks s rest) : dropMark s = s := by
  unfold dropMark
  split
  · exact absurd (.inl rfl) (h _)
  · exact absurd (.inr rfl) (h _)
  · rfl

/-- One text only is another without its mark. -/
theorem unmarks_iff {body : List Char} : Unmarks s body ↔ dropMark s = body := by
  constructor
  · intro unmarks
    cases unmarks with
    | marked marks => exact dropMark_of_marks marks
    | bare unmarked => exact dropMark_of_unmarked unmarked
  · rintro rfl
    by_cases marked : ∃ rest, Marks s rest
    · obtain ⟨rest, marks⟩ := marked
      rw [dropMark_of_marks marks]
      exact .marked marks
    · have unmarked := not_exists.1 marked
      rw [dropMark_of_unmarked unmarked]
      exact .bare unmarked

theorem toOption_eq_some_iff {ε α : Type} {r : Except ε α} {a : α} : r.toOption = some a ↔ r = .ok a := by
  cases r <;> simp [Except.toOption]

theorem hex?_eq_some_iff :
    hex? text = some n ↔
      (∃ body, Unmarks (trim text) body ∧ Denotes 16 (body.filter (· != '_')) n) ∧ n < wordLimit := by
  rw [hex?, toOption_eq_some_iff, read_eq_ok_iff (by decide) (by decide) (by decide)]
  refine and_congr_left fun _ => ?_
  constructor
  · exact fun denotes => ⟨_, unmarks_iff.2 rfl, denotes⟩
  · rintro ⟨body, unmarks, denotes⟩
    rwa [unmarks_iff.1 unmarks]

theorem count?_of_marked (marked : ∃ rest, Marks (trim text) rest) : count? text = hex? text := by
  rw [count?, if_pos (isMarked_iff.2 marked), hex?, hex?, trim_trim]

theorem count?_eq_some_iff (unmarked : ¬ ∃ rest, Marks (trim text) rest) :
    count? text = some n ↔ Denotes 10 ((trim text).filter (· != '_')) n ∧ n < wordLimit := by
  rw [count?, if_neg (mt isMarked_iff.1 unmarked), toOption_eq_some_iff]
  exact read_eq_ok_iff (by decide) (by decide) (by decide)

/-- The marks that a number may carry, or none. -/
inductive IsMark : List Char → Prop where
  | none : IsMark []
  | lower : IsMark ['0', 'x']
  | upper : IsMark ['0', 'X']

theorem not_isBlank_of_figure (h : Figure 16 c d) : isBlank c = false := by
  have solid : ∀ d < 16, isBlank d.digitChar = false ∧ isBlank d.digitChar.toUpper = false := by decide
  obtain ⟨below, rfl | rfl⟩ := h
  · exact (solid d below).1
  · exact (solid d below).2

/-- Among figures there is nothing else. -/
theorem not_mem_of_figures (figures : ∀ c ∈ digits, ∃ d, Figure 16 c d) (stray : digit? 16 c = none) :
    c ∉ digits := by
  intro hc
  obtain ⟨d, figure⟩ := figures c hc
  rw [(digit?_iff (Nat.le_refl 16)).2 figure] at stray
  cases stray

/-- A mark is no part of any digits. -/
theorem not_marks {body rest : List Char} (figures : ∀ c ∈ body.filter (· != '_'), ∃ d, Figure 16 c d) :
    ¬ Marks body rest := by
  rintro (rfl | rfl)
  · exact not_mem_of_figures (c := 'x') figures rfl (by simp)
  · exact not_mem_of_figures (c := 'X') figures rfl (by simp)

/-- What dressed-up digits are found to be, once the blanks and the mark are off. -/
theorem undressed {mark : List Char} (isMark : IsMark mark) (figures : ∀ c ∈ digits, ∃ d, Figure 16 c d)
    (h : Dresses mark digits text) :
    ∃ body, trim text = mark ++ body ∧ Unmarks (mark ++ body) body ∧ body.filter (· != '_') = digits := by
  obtain ⟨front, body, back, rfl, blank, blank', rfl⟩ := h
  have solidMark : ∀ c ∈ mark, isBlank c = false := by
    cases isMark with
    | none => exact List.forall_mem_nil _
    | lower | upper => exact List.forall_mem_cons.2 ⟨by decide, List.forall_mem_singleton.2 (by decide)⟩
  have solid : ∀ c ∈ mark ++ body, isBlank c = false := by
    intro c hc
    rcases List.mem_append.1 hc with marking | inside
    · exact solidMark c marking
    · by_cases gap : c = '_'
      · rw [gap]
        decide
      · obtain ⟨d, figure⟩ := figures c (List.mem_filter.2 ⟨inside, by simpa using gap⟩)
        exact not_isBlank_of_figure figure
  refine ⟨body, ?_, ?_, rfl⟩
  · apply Trimmed.trim_eq
    exact ⟨⟨front, back, rfl, blank, blank'⟩, fun c hc => solid c (List.mem_of_mem_head? hc),
      fun c hc => solid c (List.mem_of_getLast? hc)⟩
  · cases isMark with
    | none => exact .bare fun rest => not_marks figures
    | lower => exact .marked (.inl rfl)
    | upper => exact .marked (.inr rfl)

end Numeral

end Text

namespace Setup

open Text Text.Numeral

variable {text : String} {n : Nat}

theorem readWord_eq_ok_iff {v : UInt64} : readWord text = .ok v ↔ hex? text.toList = some v.toNat := by
  unfold readWord
  split
  · rename_i n read
    have exact : (UInt64.ofNat n).toNat = n := UInt64.toNat_ofNat_of_lt' (hex?_lt read)
    rw [read, Option.some.injEq, Except.ok.injEq, ← UInt64.toNat_inj, exact]
  · rename_i unread
    rw [unread]
    exact iff_of_false nofun nofun

theorem readCount_eq_ok_iff : readCount text = .ok n ↔ count? text.toList = some n := by
  unfold readCount
  split <;> rename_i read <;> simp [read]

theorem readLength_eq_ok_iff {v : UInt32} : readLength text = .ok v ↔ readCount text = .ok v.toNat := by
  unfold readLength
  split
  · rename_i unread
    rw [unread]
    exact iff_of_false nofun nofun
  · rename_i n read
    rw [read, Except.ok.injEq]
    split
    · rename_i fits
      have exact : (UInt32.ofNat n).toNat = n := UInt32.toNat_ofNat_of_lt' fits
      rw [Except.ok.injEq, ← UInt32.toNat_inj, exact]
    · rename_i large
      refine iff_of_false nofun ?_
      rintro rfl
      exact large v.toNat_lt

/-- What becomes of a text that is `s` without the blanks around it, where an address or a value, a count or
a read length is asked for. -/
structure Reads (text : String) (s : List Char) : Prop where
  trimmed : Trimmed text.toList s
  /-- An address or a value is what denotes it in base sixteen, once the mark and the underscores are off. -/
  word (v : UInt64) : readWord text = .ok v ↔
    ∃ body, Unmarks s body ∧ Denotes 16 (body.filter (· != '_')) v.toNat
  /-- A count with a mark is read as an address is, and otherwise it is decimal. -/
  markedCount : (∃ rest, Marks s rest) → (readCount text).toOption = (readWord text).toOption.map UInt64.toNat
  plainCount : (¬ ∃ rest, Marks s rest) → ∀ n,
    readCount text = .ok n ↔ Denotes 10 (s.filter (· != '_')) n ∧ n < UInt64.size
  /-- A read length is a count that fits it. -/
  length (v : UInt32) : readLength text = .ok v ↔ readCount text = .ok v.toNat
  /-- Whatever else there is, is said to be no number. -/
  wordRefused {e : Fault} : readWord text = .error e → e = .notANumber text
  countRefused {e : Fault} : readCount text = .error e →
    e = .notANumber text ∨ e = .notANumber (String.ofList s) ∧ ∃ rest, Marks s rest
  lengthRefused {e : Fault} : readLength text = .error e → readCount text = .error e ∨
    e = .notANumber text ∧ ∃ n, readCount text = .ok n ∧ UInt32.size ≤ n
  /-- Numbers that were printed are read back, however they are dressed up. -/
  printedWord {mark digits : List Char} {v : UInt64} : IsMark mark → Prints 16 v.toNat digits →
    Dresses mark digits text.toList → readWord text = .ok v
  printedCount {digits : List Char} {n : Nat} : n < UInt64.size → Prints 10 n digits →
    Dresses [] digits text.toList → readCount text = .ok n

theorem toOption_readCount_of_marked (marked : ∃ rest, Marks (trim text.toList) rest) :
    (readCount text).toOption = (readWord text).toOption.map UInt64.toNat := by
  unfold readCount readWord
  rw [count?_of_marked marked]
  cases read : hex? text.toList with
  | none => rfl
  | some n =>
    have exact : (UInt64.ofNat n).toNat = n := UInt64.toNat_ofNat_of_lt' (hex?_lt read)
    simp [Except.toOption, exact]

theorem readWord_refused {e : Fault} (h : readWord text = .error e) : e = .notANumber text := by
  unfold readWord at h
  split at h
  · cases h
  · exact (Except.error.inj h).symm

theorem readCount_refused {e : Fault} (h : readCount text = .error e) :
    e = .notANumber text ∨
      e = .notANumber (String.ofList (trim text.toList)) ∧ ∃ rest, Marks (trim text.toList) rest := by
  unfold readCount quotedCount at h
  split at h
  · cases h
  · obtain rfl := Except.error.inj h
    split
    · exact .inr ⟨rfl, isMarked_iff.1 ‹_›⟩
    · exact .inl rfl

theorem readLength_refused {e : Fault} (h : readLength text = .error e) :
    readCount text = .error e ∨ e = .notANumber text ∧ ∃ n, readCount text = .ok n ∧ UInt32.size ≤ n := by
  unfold readLength at h
  split at h
  · rename_i refused
    rw [refused]
    exact .inl (congrArg _ (Except.error.inj h))
  · rename_i n read
    split at h
    · cases h
    · rename_i large
      exact .inr ⟨(Except.error.inj h).symm, n, read, Nat.le_of_not_lt large⟩

/-- The digits of a printed number are figures of base sixteen. -/
theorem figures_of_printed {base : Nat} {digits : List Char} (several : 1 < base) (small : base ≤ 16)
    (h : Prints base n digits) : ∀ c ∈ digits, ∃ d, Figure 16 c d := by
  obtain ⟨values, figures, -⟩ := figures_of_prints several h
  exact exists_figure small figures

theorem readWord_of_printed {mark digits : List Char} {v : UInt64} (isMark : IsMark mark)
    (printed : Prints 16 v.toNat digits) (dressed : Dresses mark digits text.toList) :
    readWord text = .ok v := by
  have figures := figures_of_printed (by decide) (by decide) printed
  obtain ⟨body, trimmed, unmarks, rfl⟩ := undressed isMark figures dressed
  rw [readWord_eq_ok_iff, hex?_eq_some_iff, trimmed]
  exact ⟨⟨body, unmarks, denotes_of_prints (by decide) printed⟩, v.toNat_lt⟩

theorem readCount_of_printed {digits : List Char} (below : n < UInt64.size) (printed : Prints 10 n digits)
    (dressed : Dresses [] digits text.toList) : readCount text = .ok n := by
  have figures := figures_of_printed (by decide) (by decide) printed
  obtain ⟨body, trimmed, -, rfl⟩ := undressed .none figures dressed
  rw [List.nil_append] at trimmed
  have unmarked : ¬ ∃ rest, Marks (trim text.toList) rest := by
    rw [trimmed]
    rintro ⟨rest, marks⟩
    exact not_marks figures marks
  rw [readCount_eq_ok_iff, count?_eq_some_iff unmarked, trimmed]
  exact ⟨denotes_of_prints (by decide) printed, below⟩

/-- The three readers accept just the texts of their grammar, with the value that those denote. -/
theorem reads_its_grammar (text : String) : Reads text (trim text.toList) := by
  constructor
  case trimmed => exact trimmed_trim _
  case word =>
    intro v
    rw [readWord_eq_ok_iff, hex?_eq_some_iff]
    exact and_iff_left v.toNat_lt
  case markedCount => exact toOption_readCount_of_marked
  case plainCount =>
    intro unmarked n
    rw [readCount_eq_ok_iff]
    exact count?_eq_some_iff unmarked
  case length => exact fun v => readLength_eq_ok_iff
  case wordRefused => exact readWord_refused
  case countRefused => exact readCount_refused
  case lengthRefused => exact readLength_refused
  case printedWord => exact readWord_of_printed
  case printedCount => exact readCount_of_printed

/-- A plus sign may stand behind the mark and an underscore too, but nothing in front of it. -/
example : (readWord " 0x+_1F\t").toOption = some 31 ∧ (readWord "_0x1F").toOption = none := by
  decide +kernel

end Setup

end BootHost

import Mathlib.Data.List.TakeWhile
import StylesheetRunner.Proofs.Text.Numeral
import StylesheetRunner.Text.Blank

/-!
What trimming leaves of a text: the only part that stands between blanks and neither begins nor ends
with one.
-/

namespace StylesheetRunner.Text

/-- The part of a text between the blanks at its two ends. Nothing is left of a blank text. -/
structure Trimmed (text kept : List Char) : Prop where
  between : ∃ front back, text = front ++ kept ++ back ∧ (∀ character ∈ front, isBlank character) ∧
    ∀ character ∈ back, isBlank character
  front_kept : ∀ character, kept.head? = some character → isBlank character = false
  back_kept : ∀ character, kept.getLast? = some character → isBlank character = false

theorem dropWhile_append_of_blank {front rest : List Char}
    (blank : ∀ character ∈ front, isBlank character) :
    (front ++ rest).dropWhile isBlank = rest.dropWhile isBlank :=
  List.dropWhile_append_of_pos blank

theorem trimEnd_append_of_blank {text back : List Char}
    (blank : ∀ character ∈ back, isBlank character) : trimEnd (text ++ back) = trimEnd text := by
  have blank_reverse : ∀ character ∈ back.reverse, isBlank character := by
    intro character member
    exact blank character (List.mem_reverse.mp member)
  unfold trimEnd
  rw [List.reverse_append, List.dropWhile_append_of_pos blank_reverse]

theorem dropWhile_of_head {text : List Char}
    (head : ∀ character, text.head? = some character → isBlank character = false) :
    text.dropWhile isBlank = text := by
  cases text with
  | nil => rfl
  | cons character rest =>
    have kept := head character rfl
    rw [List.dropWhile_cons_of_neg (by simp [kept])]

theorem trimEnd_of_last {text : List Char}
    (last : ∀ character, text.getLast? = some character → isBlank character = false) :
    trimEnd text = text := by
  have head : ∀ character, text.reverse.head? = some character → isBlank character = false := by
    intro character first
    rw [List.head?_reverse] at first
    exact last character first
  unfold trimEnd
  rw [dropWhile_of_head head, List.reverse_reverse]

theorem exists_append_trimEnd (text : List Char) :
    ∃ back, text = trimEnd text ++ back ∧ ∀ character ∈ back, isBlank character := by
  refine ⟨(text.reverse.takeWhile isBlank).reverse, ?_, ?_⟩
  · unfold trimEnd
    rw [← List.reverse_append, List.takeWhile_append_dropWhile, List.reverse_reverse]
  · intro character member
    exact List.mem_takeWhile_imp (List.mem_reverse.mp member)

theorem trimmed_trim (text : List Char) : Trimmed text (trim text) := by
  obtain ⟨back, split, blank_back⟩ := exists_append_trimEnd (text.dropWhile isBlank)
  refine ⟨⟨text.takeWhile isBlank, back, ?_, ?_, blank_back⟩, ?_, ?_⟩
  · unfold trim
    rw [List.append_assoc, ← split, List.takeWhile_append_dropWhile]
  · intro character member
    exact List.mem_takeWhile_imp member
  · intro character first
    have front : (text.dropWhile isBlank).head? = some character := by
      rw [split, List.head?_append]
      exact Option.or_eq_some_iff.mpr (.inl first)
    have kept := List.head?_dropWhile_not isBlank text
    rw [front] at kept
    simpa using kept
  · intro character last
    unfold trim trimEnd at last
    rw [List.getLast?_reverse] at last
    have kept := List.head?_dropWhile_not isBlank (text.dropWhile isBlank).reverse
    rw [last] at kept
    simpa using kept

theorem trim_eq_of_trimmed {text kept : List Char} (trimmed : Trimmed text kept) :
    trim text = kept := by
  obtain ⟨⟨front, back, rfl, blank_front, blank_back⟩, front_kept, back_kept⟩ := trimmed
  unfold trim
  rw [List.append_assoc, dropWhile_append_of_blank blank_front]
  cases kept with
  | nil =>
    have all_blank : back.dropWhile isBlank = [] := List.dropWhile_eq_nil_iff.mpr blank_back
    rw [List.nil_append, all_blank]
    rfl
  | cons first kept =>
    have kept_front : (first :: kept ++ back).dropWhile isBlank = first :: kept ++ back :=
      dropWhile_of_head front_kept
    rw [kept_front, trimEnd_append_of_blank blank_back, trimEnd_of_last back_kept]

theorem isBlank_of_isDigit {character : Char} (digit : character.isDigit = true) :
    isBlank character = false := by
  have bounds := toNat_of_isDigit digit
  simp only [isBlank, Bool.or_eq_false_iff, Bool.and_eq_false_iff, decide_eq_false_iff_not,
    beq_eq_false_iff_ne]
  omega

theorem trimmed_of_shown {text : List Char}
    (shown : ∀ character ∈ text, isBlank character = false) : Trimmed text text :=
  ⟨⟨[], [], by rw [List.nil_append, List.append_nil], nofun, nofun⟩,
    fun character first => shown character (List.mem_of_head? first),
    fun character last => shown character (List.mem_of_getLast? last)⟩

theorem trim_eq_nil_iff {text : List Char} :
    trim text = [] ↔ ∀ character ∈ text, isBlank character := by
  constructor
  · intro nothing
    obtain ⟨⟨front, back, split, blank_front, blank_back⟩, -, -⟩ := trimmed_trim text
    rw [nothing, List.append_nil] at split
    rw [split]
    exact fun character member => (List.mem_append.mp member).elim (blank_front character)
      (blank_back character)
  · intro blank
    exact trim_eq_of_trimmed
      ⟨⟨text, [], by rw [List.append_nil, List.append_nil], blank, nofun⟩, nofun, nofun⟩

end StylesheetRunner.Text

import Folio.Text.Basic
import Mathlib.Data.List.Basic
import Mathlib.Data.List.Infix

/-! # Trimmed text

What trimming a class of characters off both ends of a text leaves: a part of the text, with no
character of the class at either end, and with every other character of the text. -/

namespace Folio.Text

open Folio.Unicode

variable {p q : Char → Bool} {c : Char} {cs ds : List Char}

theorem trim_eq_trimMatches (cs : List Char) : trim cs = trimMatches isBlank cs := rfl

theorem filter_dropWhile (h : ∀ c, p c = true → q c = false) (cs : List Char) :
    (cs.dropWhile p).filter q = cs.filter q := by
  have hfirst : (cs.takeWhile p).filter q = [] := by
    refine List.filter_eq_nil_iff.mpr fun c hc => ?_
    rw [h c (List.all_eq_true.mp List.all_takeWhile c hc)]
    exact Bool.false_ne_true
  calc (cs.dropWhile p).filter q
      = (cs.takeWhile p).filter q ++ (cs.dropWhile p).filter q := by rw [hfirst, List.nil_append]
    _ = cs.filter q := by rw [← List.filter_append, List.takeWhile_append_dropWhile]

/-- Trimming characters that a filter drops anyway changes nothing for the filter. -/
theorem filter_trimMatches (h : ∀ c, p c = true → q c = false) (cs : List Char) :
    (trimMatches p cs).filter q = cs.filter q := by
  rw [trimMatches, List.filter_reverse, filter_dropWhile h, List.filter_reverse, List.reverse_reverse,
    filter_dropWhile h]

theorem eq_false_of_mem_head?_dropWhile (p : Char → Bool) (cs : List Char) :
    ∀ c ∈ (cs.dropWhile p).head?, p c = false := by
  have hhead := List.head?_dropWhile_not p cs
  intro c hc
  rw [hc] at hhead
  exact hhead

theorem dropWhile_eq_self (h : ∀ c ∈ cs.head?, p c = false) : cs.dropWhile p = cs := by
  cases cs with
  | nil => rfl
  | cons c cs => exact List.dropWhile_cons_of_neg (Bool.eq_false_iff.mp (h c rfl))

theorem trimMatches_isPrefix (p : Char → Bool) (cs : List Char) : trimMatches p cs <+: cs.dropWhile p := by
  unfold trimMatches
  rw [← List.reverse_suffix, List.reverse_reverse]
  exact List.dropWhile_suffix p

theorem trimMatches_isInfix (p : Char → Bool) (cs : List Char) : trimMatches p cs <:+: cs :=
  (trimMatches_isPrefix p cs).isInfix.trans (List.dropWhile_suffix p).isInfix

/-- Trimming at the end leaves the first character that is not trimmed at the start. -/
theorem head?_trimMatches (p : Char → Bool) (cs : List Char) :
    (trimMatches p cs).head? = (cs.dropWhile p).head? := by
  have hhead := eq_false_of_mem_head?_dropWhile p cs
  unfold trimMatches
  cases h : cs.dropWhile p with
  | nil => rfl
  | cons c ds =>
    have hc : p c = false := hhead c (by rw [h]; rfl)
    rw [List.reverse_cons, List.dropWhile_append]
    split
    · rw [List.dropWhile_cons_of_neg (Bool.eq_false_iff.mp hc)]
      rfl
    · rw [List.reverse_append]
      rfl

theorem getLast?_trimMatches (p : Char → Bool) (cs : List Char) :
    ∀ c ∈ (trimMatches p cs).getLast?, p c = false := by
  unfold trimMatches
  rw [List.getLast?_reverse]
  exact eq_false_of_mem_head?_dropWhile p _

theorem trimMatches_eq_self (hstart : ∀ c ∈ cs.head?, p c = false)
    (hfinish : ∀ c ∈ cs.getLast?, p c = false) : trimMatches p cs = cs := by
  have hend : cs.reverse.dropWhile p = cs.reverse := dropWhile_eq_self (by rwa [List.head?_reverse])
  rw [trimMatches, dropWhile_eq_self hstart, hend, List.reverse_reverse]

end Folio.Text

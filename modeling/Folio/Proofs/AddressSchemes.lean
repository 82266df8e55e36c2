import Folio.Html.Allowed
import Folio.Proofs.TrimmedText

/-! # Schemes of addresses

A browser and the sanitizer clean an address in two ways before they look for its scheme: the browser
drops controls and spaces at both ends and tabs and line breaks everywhere, the sanitizer drops every
blank and every control.  The two do not agree on what is left, but what the browser alone keeps is no
part of a scheme, so where the browser finds a scheme the sanitizer reads the same one
(`scheme_compactText`).  Hence it decides by the scheme that the browser will follow
(`isAllowedAddress_iff_browserScheme`). -/

namespace Folio

namespace Html

/-! ### What a browser reads -/

/-- Whether a browser drops a character at the ends of an address: a control of the first block or a
space. -/
def isOuterBlank (c : Char) : Bool := c.toNat ≤ 0x20

/-- Whether a browser drops a character anywhere in an address: a tab or a line break. -/
def isTabOrBreak (c : Char) : Bool := c == '\t' || c == '\n' || c == '\r'

/-- Whether a character can stand in a scheme, behind the letter that the scheme starts with. -/
def isSchemeChar (c : Char) : Bool := c.isAlphanum || c == '+' || c == '-' || c == '.'

/-- An address as a browser reads it. -/
def browserText (url : String) : List Char :=
  (Text.trimMatches isOuterBlank url.toList).filter (!isTabOrBreak ·)

/-- The scheme that a browser finds in an address: a letter and what can follow it, up to a colon. -/
def browserScheme? (url : String) : Option (List Char) :=
  match (browserText url).takeWhile isSchemeChar, (browserText url).dropWhile isSchemeChar with
  | c :: scheme, ':' :: _ => if c.isAlpha then some (c :: scheme) else none
  | _, _ => none

/-- A scheme is what a browser reads in front of the first colon. -/
theorem of_browserScheme?_eq_some {url : String} {scheme : List Char}
    (h : browserScheme? url = some scheme) :
    (∀ c ∈ scheme, isSchemeChar c = true) ∧ ∃ rest, browserText url = scheme ++ ':' :: rest := by
  unfold browserScheme? at h
  split at h
  · rename_i c tail rest htake hdrop
    split at h
    · obtain rfl := Option.some.inj h
      refine ⟨fun d hd => List.all_eq_true.mp List.all_takeWhile d (htake ▸ hd), rest, ?_⟩
      rw [← htake, ← hdrop, List.takeWhile_append_dropWhile]
    · cases h
  · cases h

/-! ### What the sanitizer reads -/

/-- Whether the sanitizer looks at a character of an address. -/
def isLookedAt (c : Char) : Bool := !Unicode.isBlank c && !Unicode.isControl c

/-- An address as the sanitizer reads it. -/
def compactText (url : String) : List Char := url.toList.filter isLookedAt

theorem isLookedAt_of_isOuterBlank {c : Char} (h : isOuterBlank c = true) : isLookedAt c = false := by
  have hle : c.toNat ≤ 0x20 := of_decide_eq_true h
  rcases Nat.lt_or_eq_of_le hle with hlt | heq
  · simp [isLookedAt, Unicode.isControl, hlt]
  · simp [isLookedAt, Unicode.isBlank, Unicode.Ranges.contains, Unicode.blankRanges, heq]

theorem isLookedAt_of_isTabOrBreak {c : Char} (h : isTabOrBreak c = true) : isLookedAt c = false := by
  refine isLookedAt_of_isOuterBlank ?_
  simp only [isTabOrBreak, Bool.or_eq_true, beq_iff_eq] at h
  rcases h with (rfl | rfl) | rfl <;> rfl

/-- What the sanitizer reads of an address it also reads of what a browser reads. -/
theorem compactText_eq (url : String) : compactText url = (browserText url).filter isLookedAt := by
  rw [browserText, List.filter_filter, compactText,
    ← Text.filter_trimMatches fun _ => isLookedAt_of_isOuterBlank]
  refine List.filter_congr fun c _ => ?_
  cases hbreak : isTabOrBreak c with
  | false => simp
  | true => simp [isLookedAt_of_isTabOrBreak hbreak]

/-- The code points of letters and digits. -/
theorem toNat_of_isAlphanum {c : Char} (h : c.isAlphanum = true) :
    0x30 ≤ c.toNat ∧ c.toNat ≤ 0x39 ∨ 0x41 ≤ c.toNat ∧ c.toNat ≤ 0x5A ∨
      0x61 ≤ c.toNat ∧ c.toNat ≤ 0x7A := by
  rcases Bool.or_eq_true_iff.mp h with halpha | hdigit
  · rcases Bool.or_eq_true_iff.mp halpha with hupper | hlower
    · exact .inr (.inl (of_decide_eq_true hupper))
    · obtain ⟨hge, hle⟩ := Bool.and_eq_true_iff.mp hlower
      exact .inr (.inr ⟨of_decide_eq_true hge, of_decide_eq_true hle⟩)
  · exact .inl (Char.isDigit_iff_toNat.mp hdigit)

/-- The characters of a scheme are printable ASCII characters other than those that end a protocol. -/
theorem of_isSchemeChar {c : Char} (h : isSchemeChar c = true) :
    isLookedAt c = true ∧ endsProtocol c = false := by
  simp only [isSchemeChar, Bool.or_eq_true, beq_iff_eq] at h
  rcases h with ((hword | rfl) | rfl) | rfl
  · have hbounds := toNat_of_isAlphanum hword
    have hne : ∀ d : Char, endsProtocol d = true → c ≠ d := by
      rintro d hd rfl
      simp only [endsProtocol, Bool.or_eq_true, beq_iff_eq] at hd
      rcases hd with ((rfl | rfl) | rfl) | rfl <;> exact absurd hword (by decide)
    refine ⟨?_, Bool.eq_false_iff.mpr fun hends => hne c hends rfl⟩
    simp only [isLookedAt, Unicode.isBlank, Unicode.isControl, Unicode.Ranges.contains,
      Unicode.blankRanges, List.any_cons, List.any_nil, Bool.or_false, Bool.and_eq_true,
      Bool.not_eq_true', Bool.or_eq_false_iff, Bool.and_eq_false_iff, decide_eq_false_iff_not]
    omega
  all_goals exact ⟨by decide, by decide⟩

/-- Where a browser finds a scheme, the sanitizer has it in front of its first mark. -/
theorem scheme_compactText {url : String} {scheme : List Char} (h : browserScheme? url = some scheme) :
    (compactText url).takeWhile (!endsProtocol ·) = scheme ∧
      ∃ rest, (compactText url).dropWhile (!endsProtocol ·) = ':' :: rest := by
  obtain ⟨hscheme, rest, hread⟩ := of_browserScheme?_eq_some h
  have hkept : scheme.filter isLookedAt = scheme :=
    List.filter_eq_self.mpr fun c hc => (of_isSchemeChar (hscheme c hc)).1
  have hcompact : compactText url = scheme ++ ':' :: rest.filter isLookedAt := by
    rw [compactText_eq, hread, List.filter_append, hkept, List.filter_cons_of_pos (by decide)]
  have hbefore : ∀ c ∈ scheme, (!endsProtocol c) = true := fun c hc => by
    rw [(of_isSchemeChar (hscheme c hc)).2]
    rfl
  rw [hcompact, List.takeWhile_append_of_pos hbefore, List.dropWhile_append_of_pos hbefore,
    List.takeWhile_cons_of_neg (by decide), List.dropWhile_cons_of_neg (by decide), List.append_nil]
  exact ⟨rfl, _, rfl⟩

/-! ### The main theorem -/

/-- **The sanitizer decides by the scheme that a browser follows**: an address in which a browser finds a
scheme is allowed exactly if that is, up to the case of its letters, one of `http`, `https`, `mailto` and
`tel`. -/
theorem isAllowedAddress_iff_browserScheme {url : String} {scheme : List Char}
    (h : browserScheme? url = some scheme) :
    isAllowedAddress url = true ↔
      String.ofList (scheme.map Char.toLower) ∈ ["http", "https", "mailto", "tel"] := by
  obtain ⟨htake, rest, hdrop⟩ := scheme_compactText h
  have hread : isAllowedAddress url =
      allowedProtocols.any fun p => p.toList == scheme.map Char.toLower := by
    have hcompact : (url.toList.filter fun c => !Unicode.isBlank c && !Unicode.isControl c) =
        compactText url := rfl
    simp only [isAllowedAddress, hcompact, htake, hdrop]
  rw [hread, List.any_eq_true]
  constructor
  · rintro ⟨p, hp, heq⟩
    rw [← eq_of_beq heq, String.ofList_toList]
    exact hp
  · intro hmem
    exact ⟨_, hmem, by simp⟩

/-- A script behind a control, split by a tab and a line break, is refused; a link with a space in front
and capitals is allowed. -/
theorem isAllowedAddress_iff_browserScheme_split :
    browserScheme? "\x01 jAva\tscr\nipt:alert(1)" = some "jAvascript".toList ∧
      isAllowedAddress "\x01 jAva\tscr\nipt:alert(1)" = false ∧
      browserScheme? " HTT\tPS://a:b " = some "HTTPS".toList ∧
      isAllowedAddress " HTT\tPS://a:b " = true := by
  have hscript : browserScheme? "\x01 jAva\tscr\nipt:alert(1)" = some "jAvascript".toList := by
    decide +kernel
  have hlink : browserScheme? " HTT\tPS://a:b " = some "HTTPS".toList := by decide +kernel
  refine ⟨hscript, ?_, hlink, (isAllowedAddress_iff_browserScheme hlink).mpr (by decide +kernel)⟩
  refine Bool.eq_false_iff.mpr fun hallowed => ?_
  exact absurd ((isAllowedAddress_iff_browserScheme hscript).mp hallowed) (by decide +kernel)

end Html

end Folio

import Gradual.Text.Quoted
import Mathlib.Data.List.Basic

/-!
# Where a quoted text ends

A quoted text says by itself where it stops. From what is written for a character, the
character and what follows it are known (`Text.escape_append_inj`), and no written
character starts with a quote. Two texts that start with a quotation therefore agree
only if they quote the same and go on alike (`Text.quote_append_inj`).
-/

namespace Gradual.Text

theorem append_mark_inj {mark : Char} {x y r s : List Char} (hx : mark ∉ x) (hy : mark ∉ y) :
    x ++ mark :: r = y ++ mark :: s ↔ x = y ∧ r = s := by
  constructor
  · intro h
    have hlength : x.length = y.length := by
      simpa [List.idxOf_append_of_notMem hx, List.idxOf_append_of_notMem hy] using
        congrArg (List.idxOf mark) h
    obtain ⟨hxy, hrs⟩ := List.append_inj h hlength
    exact ⟨hxy, (List.cons.inj hrs).2⟩
  · rintro ⟨rfl, rfl⟩
    rfl

/-! ## Codes -/

theorem digitChar_inj {m n : Nat} (hm : m < 16) (hn : n < 16) :
    Nat.digitChar m = Nat.digitChar n ↔ m = n := by
  have hdigits : ∀ i j : Fin 16, Nat.digitChar i = Nat.digitChar j ↔ i = j := by decide
  simpa using hdigits ⟨m, hm⟩ ⟨n, hn⟩

theorem singleton_ne_toDigits_append (c d : Char) (n : Nat) : [c] ≠ Nat.toDigits 16 n ++ [d] := by
  intro h
  have hlength := congrArg List.length h
  simp at hlength

theorem toDigits_injective : Function.Injective (Nat.toDigits 16) := by
  intro m
  induction m using Nat.strongRecOn with
  | ind m ih =>
      intro n h
      rw [Nat.toDigits_eq_if (by decide), Nat.toDigits_eq_if (n := n) (by decide)] at h
      split at h <;> split at h
      case isTrue.isTrue hm hn => exact (digitChar_inj hm hn).mp (List.cons.inj h).1
      case isTrue.isFalse => exact absurd h (singleton_ne_toDigits_append _ _ _)
      case isFalse.isTrue => exact absurd h.symm (singleton_ne_toDigits_append _ _ _)
      case isFalse.isFalse =>
        obtain ⟨hfront, hlast⟩ := List.append_inj' h rfl
        have hquotient : m / 16 = n / 16 := ih (m / 16) (by omega) hfront
        have hremainder : m % 16 = n % 16 :=
          (digitChar_inj (Nat.mod_lt m (by decide)) (Nat.mod_lt n (by decide))).mp
            (List.cons.inj hlast).1
        omega

theorem brace_notMem_toDigits (n : Nat) : '\x7d' ∉ Nat.toDigits 16 n := by
  induction n using Nat.strongRecOn with
  | ind n ih =>
      rw [Nat.toDigits_eq_if (by decide)]
      split
      · exact fun h => Nat.digitChar_ne '\x7d' (by decide) (List.mem_singleton.mp h).symm
      · rw [List.mem_append, List.mem_singleton, not_or]
        exact ⟨ih (n / 16) (by omega), (Nat.digitChar_ne '\x7d' (by decide)).symm⟩

/-- A code ends at its brace, and names one character. -/
theorem codeEscape_append_inj {c d : Char} {r s : List Char} :
    codeEscape c ++ r = codeEscape d ++ s ↔ c = d ∧ r = s := by
  simp only [codeEscape, List.append_assoc, List.append_cancel_left_eq, List.singleton_append]
  rw [append_mark_inj (brace_notMem_toDigits _) (brace_notMem_toDigits _),
    toDigits_injective.eq_iff, Char.toNat_inj]

/-! ## Escapes -/

/-- The letters that stand for a character behind a backslash, with their characters. -/
def letters : List (Char × Char) :=
  [('"', '"'), ('\\', '\\'), ('n', '\n'), ('r', '\r'), ('t', '\t'), ('0', '\x00')]

/-- No letter stands for two characters, and none is the letter in front of a code. -/
theorem letters_unique : ∀ p ∈ letters, p.1 ≠ 'u' ∧ ∀ q ∈ letters, p.1 = q.1 → p.2 = q.2 := by
  decide

/-- The three ways to write a character. -/
theorem escape_cases (c : Char) :
    (∃ l, (l, c) ∈ letters ∧ escape c = ['\\', l]) ∨ escape c = codeEscape c ∨
      (c ≠ '"' ∧ c ≠ '\\' ∧ escape c = [c]) := by
  by_cases hletter : ∃ l, (l, c) ∈ letters
  · obtain ⟨l, hl⟩ := hletter
    have hwritten : ∀ p ∈ letters, escape p.2 = ['\\', p.1] := by decide
    exact .inl ⟨l, hl, hwritten _ hl⟩
  · have hothers : ∀ p ∈ letters, c ≠ p.2 := fun p hp hc => hletter ⟨p.1, hc ▸ hp⟩
    simp only [letters, List.forall_mem_cons, List.not_mem_nil, false_implies, implies_true,
      and_true] at hothers
    obtain ⟨hquote, hbackslash, hnewline, hreturn, htab, hnull⟩ := hothers
    simp only [escape, if_neg hquote, if_neg hbackslash, if_neg hnewline, if_neg hreturn,
      if_neg htab, if_neg hnull]
    cases isHidden c with
    | true => exact .inr (.inl rfl)
    | false => exact .inr (.inr ⟨hquote, hbackslash, rfl⟩)

/-- A written character tells what it stands for, and where it ends. -/
theorem escape_append_inj {c d : Char} {r s : List Char} :
    escape c ++ r = escape d ++ s ↔ c = d ∧ r = s := by
  refine ⟨fun h => ?_, fun ⟨hc, hr⟩ => by rw [hc, hr]⟩
  -- The first character tells an escape from a character that stands for itself, and the
  -- second one tells a letter from a code.
  rcases escape_cases c with ⟨l, hl, hc⟩ | hc | ⟨-, hself, hc⟩
  · have hu := (letters_unique _ hl).1
    rcases escape_cases d with ⟨m, hm, hd⟩ | hd | ⟨-, hself, hd⟩ <;> rw [hc, hd] at h
    · obtain ⟨hlm, hrs⟩ := List.cons.inj (List.cons.inj h).2
      exact ⟨(letters_unique _ hl).2 _ hm hlm, hrs⟩
    · exact absurd (List.cons.inj (List.cons.inj h).2).1 hu
    · exact absurd (List.cons.inj h).1.symm hself
  · rcases escape_cases d with ⟨m, hm, hd⟩ | hd | ⟨-, hself, hd⟩ <;> rw [hc, hd] at h
    · exact absurd (List.cons.inj (List.cons.inj h).2).1.symm (letters_unique _ hm).1
    · exact codeEscape_append_inj.mp h
    · exact absurd (List.cons.inj h).1.symm hself
  · rcases escape_cases d with ⟨m, hm, hd⟩ | hd | ⟨-, -, hd⟩ <;> rw [hc, hd] at h
    · exact absurd (List.cons.inj h).1 hself
    · exact absurd (List.cons.inj h).1 hself
    · exact List.cons.inj h

theorem escape_append_ne_quote (c : Char) (r s : List Char) : escape c ++ r ≠ '"' :: s := by
  intro h
  rcases escape_cases c with ⟨l, -, hc⟩ | hc | ⟨hquote, -, hc⟩ <;> rw [hc] at h
  · exact absurd (List.cons.inj h).1 (by decide)
  · exact absurd (List.cons.inj h).1 (by decide)
  · exact absurd (List.cons.inj h).1 hquote

/-! ## Quotations -/

/-- The inside of a quotation ends at the first quote that is not escaped. -/
theorem flatMap_escape_append_inj {cs ds r s : List Char} :
    cs.flatMap escape ++ '"' :: r = ds.flatMap escape ++ '"' :: s ↔ cs = ds ∧ r = s := by
  refine ⟨fun h => ?_, fun ⟨hc, hr⟩ => by rw [hc, hr]⟩
  induction cs generalizing ds with
  | nil =>
      cases ds with
      | nil => exact ⟨rfl, (List.cons.inj h).2⟩
      | cons d ds =>
          rw [List.flatMap_cons, List.append_assoc] at h
          exact absurd h.symm (escape_append_ne_quote d _ r)
  | cons c cs ih =>
      rw [List.flatMap_cons, List.append_assoc] at h
      cases ds with
      | nil => exact absurd h (escape_append_ne_quote c _ s)
      | cons d ds =>
          rw [List.flatMap_cons, List.append_assoc] at h
          obtain ⟨hcd, hrest⟩ := escape_append_inj.mp h
          obtain ⟨hcs, hrs⟩ := ih hrest
          exact ⟨by rw [hcd, hcs], hrs⟩

theorem toList_quote_append (s r : String) :
    (quote s ++ r).toList = '"' :: (s.toList.flatMap escape ++ '"' :: r.toList) := by
  simp [quote]

/-- A text that starts with a quotation tells what is quoted, and what stands behind. -/
@[simp] theorem quote_append_inj {s t r u : String} :
    quote s ++ r = quote t ++ u ↔ s = t ∧ r = u := by
  rw [← String.toList_inj, toList_quote_append, toList_quote_append, List.cons_inj_right,
    flatMap_escape_append_inj, String.toList_inj, String.toList_inj]

@[simp] theorem quote_inj {s t : String} : quote s = quote t ↔ s = t := by
  simpa using quote_append_inj (s := s) (t := t) (r := "") (u := "")

/-- A quote does not end the quotation, and a backslash in front of it does not help. -/
example : quote "a\\\"" = "\"a\\\\\\\"\"" := by decide +kernel

end Gradual.Text

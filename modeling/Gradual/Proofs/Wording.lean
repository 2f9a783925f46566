import Gradual.Diagnostic.Wording
import Gradual.Proofs.PrintedTypes
import Gradual.Proofs.Text.Quoted

/-!
# Diagnostics are known by their text

The text of a diagnostic is read from the front. It starts with a key that ends at the
first colon, and the key leaves nothing open but the data that a cause carries
(`Cause.outline_eq_of_key_eq`). What is left are the names and operators, which are
quoted and so tell where they end, and the types, which are printed without the blanks
and commas that stand behind them.
-/

namespace Gradual

/-! ## Types inside a sentence -/

namespace Ty

/-- A printed type is one word. -/
theorem notMem_name {c : Char} (hc : c = ' ' ∨ c = ',') (t : Ty) : c ∉ t.name.toList := by
  induction t with
  | array t ih =>
      have hname : (Ty.array t).name.toList = '[' :: ']' :: t.name.toList := String.toList_append
      rw [hname, List.mem_cons, List.mem_cons, not_or, not_or]
      refine ⟨?_, ?_, ih⟩ <;> rcases hc with rfl | rfl <;> decide
  | number | character | string | boolean | any => rcases hc with rfl | rfl <;> decide

@[simp] theorem name_inj {t u : Ty} : t.name = u.name ↔ t = u :=
  name_injective.eq_iff

theorem name_append_inj {t u : Ty} {link r s : String}
    (hlink : link.toList.head? = some ' ' ∨ link.toList.head? = some ',') :
    t.name ++ (link ++ r) = u.name ++ (link ++ s) ↔ t = u ∧ r = s := by
  refine ⟨fun h => ?_, fun ⟨ht, hr⟩ => by rw [ht, hr]⟩
  obtain ⟨c, hc, hhead⟩ : ∃ c, (c = ' ' ∨ c = ',') ∧ link.toList.head? = some c := by
    rcases hlink with hblank | hcomma
    · exact ⟨' ', .inl rfl, hblank⟩
    · exact ⟨',', .inr rfl, hcomma⟩
  obtain ⟨words, hwords⟩ := List.head?_eq_some_iff.mp hhead
  rw [← String.toList_inj] at h
  simp only [String.toList_append, hwords, List.cons_append] at h
  rw [Text.append_mark_inj (notMem_name hc t) (notMem_name hc u), String.toList_inj,
    name_inj, List.append_cancel_left_eq, String.toList_inj] at h
  exact h

end Ty

/-! ## Keys -/

namespace Cause

variable {c d : Cause}

/-- The cause without its data: what its key tells. -/
def outline : Cause → Cause
  | operand required _ _ => operand required "" .any
  | unordered _ _ => unordered "" .any
  | incomparable _ _ _ => incomparable "" .any .any
  | untyped _ => untyped ""
  | mismatch site _ _ => mismatch site .any .any
  | notWritable => notWritable
  | unknownType _ => unknownType ""
  | undeclared _ => undeclared ""
  | redeclared _ => redeclared ""

/-- One cause for each key. -/
def outlines : List Cause :=
  Requirement.all.map (operand · "" .any) ++ Site.all.map (mismatch · .any .any) ++
    [unordered "" .any, incomparable "" .any .any, untyped "", notWritable, unknownType "",
      undeclared "", redeclared ""]

theorem outline_mem (c : Cause) : c.outline ∈ outlines := by
  cases c with
  | operand required _ _ => cases required <;> simp [outline, outlines, Requirement.all]
  | mismatch site _ _ => cases site <;> simp [outline, outlines, Site.all]
  | _ => simp [outline, outlines]

theorem key_outline (c : Cause) : c.outline.key = c.key := by
  cases c <;> rfl

theorem outline_eq_of_key_eq (h : c.key = d.key) : c.outline = d.outline := by
  have hkeys : ∀ a ∈ outlines, ∀ b ∈ outlines, a.key = b.key → a = b := by decide +kernel
  refine hkeys _ c.outline_mem _ d.outline_mem ?_
  rw [key_outline, key_outline, h]

theorem colon_notMem_key (c : Cause) : ':' ∉ c.key.toList := by
  have hkeys : ∀ a ∈ outlines, ':' ∉ a.key.toList := by decide +kernel
  rw [← key_outline]
  exact hkeys _ c.outline_mem

/-- The key of a text ends at the first colon. -/
theorem text_eq_text_iff : c.text = d.text ↔ c.key = d.key ∧ c.message = d.message := by
  have htext (c : Cause) : c.text.toList = c.key.toList ++ ':' :: ' ' :: c.message.toList := by
    simp [text]
  rw [← String.toList_inj, htext, htext,
    Text.append_mark_inj c.colon_notMem_key d.colon_notMem_key, List.cons_inj_right,
    String.toList_inj, String.toList_inj]

/-! ## Messages -/

/-- With the key known, the message tells the data of the cause. -/
theorem eq_of_message_eq (houtline : c.outline = d.outline) (h : c.message = d.message) :
    c = d := by
  unfold message at h
  cases c with
  | operand required operator found =>
      cases d with
      | operand required' operator' found' =>
          obtain rfl : required = required' := by simpa [outline] using houtline
          simpa [String.append_assoc] using h
      | _ => cases houtline
  | unordered operator found =>
      cases d with
      | unordered operator' found' => simpa [String.append_assoc] using h
      | _ => cases houtline
  | incomparable operator left right =>
      cases d with
      | incomparable operator' left' right' =>
          have hwith : " with ".toList.head? = some ' ' := by decide
          simpa [String.append_assoc, Ty.name_append_inj (.inl hwith)] using h
      | _ => cases houtline
  | untyped name =>
      cases d with
      | untyped name' => simpa [String.append_assoc] using h
      | _ => cases houtline
  | mismatch site expected received =>
      cases d with
      | mismatch site' expected' received' =>
          obtain rfl : site = site' := by simpa [outline] using houtline
          have hreceived : ", received ".toList.head? = some ',' := by decide
          simpa [String.append_assoc, Ty.name_append_inj (.inr hreceived)] using h
      | _ => cases houtline
  | notWritable =>
      cases d with
      | notWritable => rfl
      | _ => cases houtline
  | unknownType name =>
      cases d with
      | unknownType name' => simpa [String.append_assoc] using h
      | _ => cases houtline
  | undeclared name =>
      cases d with
      | undeclared name' => simpa [String.append_assoc] using h
      | _ => cases houtline
  | redeclared name =>
      cases d with
      | redeclared name' => simpa [String.append_assoc] using h
      | _ => cases houtline

end Cause

/-- **No two causes read alike.** The text of a diagnostic tells its cause with all of
its data: the operand that an operator asks for, the place of a mismatch, the types, and
every name and operator to the character, whatever words of a message they imitate. The
position is not a part of the text. -/
theorem no_two_causes_read_alike : Function.Injective Cause.text := by
  intro c d h
  obtain ⟨hkey, hmessage⟩ := Cause.text_eq_text_iff.mp h
  exact Cause.eq_of_message_eq (Cause.outline_eq_of_key_eq hkey) hmessage

/-- A name that ends like the message of another cause is told from that cause: only one
cause has this text. -/
theorem no_two_causes_read_alike_imitation :
    (Cause.undeclared "x\" already declared").text =
      "variable_not_declared: variable \"x\\\" already declared\" not declared" ∧
    ∀ c : Cause, c.text =
      "variable_not_declared: variable \"x\\\" already declared\" not declared" →
        c = .undeclared "x\" already declared" := by
  have htext : (Cause.undeclared "x\" already declared").text =
      "variable_not_declared: variable \"x\\\" already declared\" not declared" := by
    decide +kernel
  exact ⟨htext, fun c hc => no_two_causes_read_alike (hc.trans htext.symm)⟩

end Gradual

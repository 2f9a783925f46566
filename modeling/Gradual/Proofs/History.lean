import Gradual.Proofs.Stmt.Points
import Mathlib.Data.List.Forall2
import Mathlib.Data.List.Induction

/-!
# Histories of environments

What an environment answers can be told from the calls that made it, without a
stack of scopes. A declaration is made at some depth, and it is live until a pop
closes the scope that was the innermost one at that time (`History.Live`). Of
the live declarations those that were made at the greatest depth count. Among
these the first one decides what a variable is, and the last one what a word
means.

The proof walks along the history and keeps for every open scope the live
declarations that were made in it (`History.scopes_run`). The look-ups then go
through the same lists in the same order.
-/

namespace Gradual

/-! ## Calls -/

namespace Env

/-- A declaration is refused if the innermost scope has the name, and is in
force otherwise. -/
theorem declare_eq (env : Env) (binding : Binding) (position : Position) :
    env.declare binding position =
      if (env.inner.binding? binding.name).isSome then
        .error ⟨.redeclared binding.name, position⟩
      else .ok (env.enter binding) := by
  unfold declare enter
  split <;> rfl

theorem pop_of_outer_eq_nil {env : Env} (h : env.outer = []) : env.pop = env := by
  rw [pop, h]

theorem scopes_pop {env : Env} (h : env.outer ≠ []) : env.pop.scopes = env.outer := by
  obtain ⟨inner, outer⟩ := env
  cases outer with
  | nil => exact absurd rfl h
  | cons => rfl

end Env

/-- A call that changes an environment. -/
inductive Env.Call where
  | push
  | pop
  | declare (binding : Binding) (position : Position)
  | declareType (word : String) (t : Ty)
  deriving DecidableEq, Repr

namespace Env.Call

/-- The environment behind the call. A declaration that is refused changes
nothing. -/
def apply (env : Env) : Call → Env
  | push => env.push
  | pop => env.pop
  | declare binding position =>
      match env.declare binding position with
      | .ok env' => env'
      | .error _ => env
  | declareType word t => env.declareType word t

/-- The number of open scopes behind the call if there are `n` in front of it. A
pop takes effect if it leaves a scope open. -/
def depth (n : Nat) : Call → Nat
  | push => n + 1
  | pop => if 1 < n then n - 1 else n
  | declare _ _ | declareType _ _ => n

theorem apply_declare (env : Env) (binding : Binding) (position : Position) :
    (declare binding position).apply env = env.enter binding := by
  rw [apply, declare_eq]
  by_cases htaken : (env.inner.binding? binding.name).isSome = true
  · rw [if_pos htaken, enter, if_pos htaken]
  · rw [if_neg htaken]

def isVariable : Call → Bool
  | declare _ _ => true
  | push | pop | declareType _ _ => false

def isAlias : Call → Bool
  | declareType _ _ => true
  | push | pop | declare _ _ => false

def isDeclaration (c : Call) : Bool :=
  c.isVariable || c.isAlias

/-- The variable that the call declares, if it is one of that name. -/
def binding? (name : String) : Call → Option Binding
  | declare binding _ => if binding.name = name then some binding else none
  | push | pop | declareType _ _ => none

/-- The type that the call gives to a word. -/
def alias? (word : String) : Call → Option Ty
  | declareType w t => if w = word then some t else none
  | push | pop | declare _ _ => none

end Env.Call

open Env (Call)

/-- The calls that were made on an environment, the latest at the end. In front
of them nothing was declared. -/
abbrev History := List Call

namespace History

/-- The environment that the calls have made. -/
def run (h : History) : Env :=
  h.foldl Call.apply .empty

/-! ## Live declarations -/

/-- The number of scopes that are open behind the calls. -/
def depth (h : History) : Nat :=
  h.foldl Call.depth 1

/-- The number of scopes that were open when the call at a position was made. -/
def depthAt (h : History) (i : Nat) : Nat :=
  depth (h.take i)

/-- The call at `j` is a pop that takes effect, and it finds as many scopes open
as the earlier call at `i`. The first such pop closes the scope of that call. -/
def Closes (h : History) (j i : Nat) : Prop :=
  i < j ∧ h[j]? = some .pop ∧ 1 < depthAt h j ∧ depthAt h j = depthAt h i

/-- No pop has closed the scope in which the call at `i` was made. -/
def Live (h : History) (i : Nat) : Prop :=
  ∀ j < h.length, ¬ Closes h j i

instance (h : History) (j i : Nat) : Decidable (Closes h j i) :=
  inferInstanceAs (Decidable (_ ∧ _ ∧ _ ∧ _))

instance (h : History) (i : Nat) : Decidable (Live h i) :=
  inferInstanceAs (Decidable (∀ j < h.length, ¬ Closes h j i))

/-- The entry of a history is a declaration that was made with `d` scopes open
and is live. -/
def isLiveAt (h : History) (d : Nat) (q : Call × Nat) : Bool :=
  q.1.isDeclaration && decide (depthAt h q.2 = d ∧ Live h q.2)

/-- The live declarations that were made with `d` scopes open, the earliest in
front. -/
def liveAt (h : History) (d : Nat) : List Call :=
  (h.zipIdx.filter (isLiveAt h d)).map Prod.fst

/-- The numbers from `n` down to one: the depths of the open scopes, from the
inside outwards. -/
def levels : Nat → List Nat
  | 0 => []
  | n + 1 => (n + 1) :: levels n

/-- The earliest live declaration of a variable in the innermost scope that has
one. -/
def binding? (h : History) (name : String) : Option Binding :=
  (levels (depth h)).findSome? fun d => (liveAt h d).findSome? (Call.binding? name)

/-- The latest live meaning of a word in the innermost scope that has one, and
the built-in one if there is none. -/
def word? (h : History) (word : String) : Option Ty :=
  ((levels (depth h)).findSome? fun d => (liveAt h d).reverse.findSome? (Call.alias? word)).or
    (Ty.builtin? word)

/-- The current scope has a live declaration of the variable. -/
def Declares (h : History) (name : String) : Prop :=
  ∃ c ∈ liveAt h (depth h), (c.binding? name).isSome = true

/-! ### One call more -/

theorem run_snoc (h : History) (c : Call) : run (h ++ [c]) = c.apply (run h) := by
  unfold run
  rw [List.foldl_append]
  rfl

theorem depth_snoc (h : History) (c : Call) : depth (h ++ [c]) = c.depth (depth h) := by
  unfold depth
  rw [List.foldl_append]
  rfl

theorem depth_pos (h : History) : 0 < depth h := by
  induction h using List.reverseRecOn with
  | nil => exact Nat.one_pos
  | append_singleton h c ih =>
      rw [depth_snoc]
      cases c with
      | push => exact Nat.succ_pos _
      | pop =>
          show 0 < if 1 < depth h then depth h - 1 else depth h
          split
          · omega
          · exact ih
      | declare | declareType => exact ih

theorem depthAt_length (h : History) : depthAt h h.length = depth h := by
  rw [depthAt, List.take_length]

theorem depthAt_snoc {h : History} {i : Nat} (c : Call) (hi : i ≤ h.length) :
    depthAt (h ++ [c]) i = depthAt h i := by
  rw [depthAt, depthAt, List.take_append_of_le_length hi]

/-- The call closes the scope at depth `d`. -/
def closesAt (h : History) (c : Call) (d : Nat) : Bool :=
  c = .pop ∧ 1 < depth h ∧ depth h = d

/-- The last call takes the life of the declarations in a scope that it closes. -/
theorem live_snoc {h : History} {i : Nat} (c : Call) (hi : i < h.length) :
    Live (h ++ [c]) i ↔ Live h i ∧ closesAt h c (depthAt h i) = false := by
  have hlast : Closes (h ++ [c]) h.length i ↔ closesAt h c (depthAt h i) = true := by
    unfold Closes closesAt
    rw [List.getElem?_concat_length, depthAt_snoc c (Nat.le_refl _), depthAt_length,
      depthAt_snoc c (Nat.le_of_lt hi), Option.some_inj, decide_eq_true_eq]
    exact and_iff_right hi
  have hearlier : ∀ j < h.length, (Closes (h ++ [c]) j i ↔ Closes h j i) := by
    intro j hj
    unfold Closes
    rw [List.getElem?_append_left hj, depthAt_snoc c (Nat.le_of_lt hj),
      depthAt_snoc c (Nat.le_of_lt hi)]
  have hlength : (h ++ [c]).length = h.length + 1 := List.length_append
  unfold Live
  rw [hlength]
  constructor
  · intro hlive
    refine ⟨?_, ?_⟩
    · intro j hj hcloses
      exact hlive j (by omega) ((hearlier j hj).mpr hcloses)
    · rw [← Bool.not_eq_true, ← hlast]
      exact hlive h.length (Nat.lt_succ_self _)
  · rintro ⟨hlive, hopen⟩ j hj
    rcases Nat.lt_succ_iff_lt_or_eq.mp hj with hj | rfl
    · rw [hearlier j hj]
      exact hlive j hj
    · rw [hlast, hopen]
      exact Bool.false_ne_true

/-- No call is behind the last one. -/
theorem live_length (h : History) (c : Call) : Live (h ++ [c]) h.length := by
  intro j hj hcloses
  have hlength : (h ++ [c]).length = h.length + 1 := List.length_append
  have hbehind : h.length < j := hcloses.1
  omega

theorem isLiveAt_snoc {h : History} {q : Call × Nat} (c : Call) (d : Nat)
    (hq : q ∈ h.zipIdx) :
    isLiveAt (h ++ [c]) d q = (!closesAt h c d && isLiveAt h d q) := by
  obtain ⟨c', i⟩ := q
  have hi : i < h.length := (List.mem_zipIdx' hq).1
  unfold isLiveAt
  rw [Bool.eq_iff_iff]
  simp only [Bool.and_eq_true, Bool.not_eq_true', decide_eq_true_eq, live_snoc c hi,
    depthAt_snoc c (Nat.le_of_lt hi)]
  constructor
  · rintro ⟨hdeclares, rfl, hlive, hopen⟩
    exact ⟨hopen, hdeclares, rfl, hlive⟩
  · rintro ⟨hopen, hdeclares, rfl, hlive⟩
    exact ⟨hdeclares, rfl, hlive, hopen⟩

theorem isLiveAt_length (h : History) (c : Call) (d : Nat) :
    isLiveAt (h ++ [c]) d (c, h.length) = (c.isDeclaration && decide (depth h = d)) := by
  have hdepth : depthAt (h ++ [c]) h.length = depth h := by
    rw [depthAt_snoc c (Nat.le_refl _), depthAt_length]
  simp [isLiveAt, hdepth, live_length]

/-- One more call: the scope that it closes has nothing live any more, and a
declaration comes behind the other ones of its scope. -/
theorem liveAt_snoc (h : History) (c : Call) (d : Nat) :
    liveAt (h ++ [c]) d =
      (if closesAt h c d then [] else liveAt h d) ++
        if c.isDeclaration ∧ depth h = d then [c] else [] := by
  have hearlier : h.zipIdx.filter (isLiveAt (h ++ [c]) d) =
      if closesAt h c d then [] else h.zipIdx.filter (isLiveAt h d) := by
    rw [List.filter_congr fun q hq => isLiveAt_snoc c d hq]
    cases closesAt h c d with
    | true => exact List.filter_false _
    | false => rfl
  have hlast : [(c, h.length)].filter (isLiveAt (h ++ [c]) d) =
      if c.isDeclaration ∧ depth h = d then [(c, h.length)] else [] := by
    simp [List.filter_singleton, isLiveAt_length]
  unfold liveAt
  rw [List.zipIdx_append, List.filter_append, List.map_append, hearlier, Nat.zero_add,
    List.zipIdx_singleton, hlast, apply_ite (List.map Prod.fst), apply_ite (List.map Prod.fst)]
  rfl

/-- Only the scopes at the depth of the call can be concerned. -/
theorem liveAt_snoc_of_ne {h : History} {d : Nat} (c : Call) (hd : depth h ≠ d) :
    liveAt (h ++ [c]) d = liveAt h d := by
  have hopen : closesAt h c d = false := by simp [closesAt, hd]
  simp [liveAt_snoc, hopen, hd]

theorem liveAt_snoc_of_open {h : History} {c : Call} {d : Nat} (hc : c.isDeclaration = false)
    (hopen : closesAt h c d = false) : liveAt (h ++ [c]) d = liveAt h d := by
  simp [liveAt_snoc, hopen, hc]

theorem liveAt_snoc_declaration {h : History} {c : Call} (hc : c.isDeclaration = true) :
    liveAt (h ++ [c]) (depth h) = liveAt h (depth h) ++ [c] := by
  have hopen : closesAt h c (depth h) = false := by
    cases c with
    | push | declare | declareType => rfl
    | pop => cases hc
  simp [liveAt_snoc, hopen, hc]

/-- Nothing is live at a depth where no scope is open. -/
theorem liveAt_of_depth_lt {h : History} {d : Nat} (hd : depth h < d) : liveAt h d = [] := by
  induction h using List.reverseRecOn with
  | nil => rfl
  | append_singleton h c ih =>
      rw [depth_snoc] at hd
      rw [liveAt_snoc, List.append_eq_nil_iff]
      cases c with
      | push =>
          have hbelow : depth h < d := Nat.lt_of_succ_lt hd
          exact ⟨ih hbelow, rfl⟩
      | pop =>
          refine ⟨?_, rfl⟩
          by_cases hcloses : closesAt h .pop d = true
          · rw [if_pos hcloses]
          · -- The pop closed no scope at that depth, so there was none.
            have hbelow : depth h < d := by
              simp only [Call.depth] at hd
              simp only [closesAt, decide_eq_true_eq, true_and, not_and] at hcloses
              split at hd <;> omega
            rw [if_neg hcloses]
            exact ih hbelow
      | declare | declareType =>
          have hbelow : depth h < d := hd
          have hother : depth h ≠ d := Nat.ne_of_lt hbelow
          exact ⟨ih hbelow, if_neg fun h => hother h.2⟩

theorem le_of_mem_levels {n d : Nat} (hd : d ∈ levels n) : d ≤ n := by
  induction n with
  | zero => cases hd
  | succ n ih =>
      rcases List.mem_cons.mp hd with rfl | hd
      · exact Nat.le_refl _
      · exact Nat.le_succ_of_le (ih hd)

/-! ## Scopes and live declarations -/

/-- The scope answers what the declarations made in it say: the first one of a
variable, and the last one of a word. -/
structure Keeps (s : Scope) (cs : List Call) : Prop where
  binding? : ∀ name, s.binding? name = cs.findSome? (Call.binding? name)
  alias? : ∀ word, s.alias? word = cs.reverse.findSome? (Call.alias? word)

theorem Keeps.empty : Keeps {} [] :=
  ⟨fun _ => rfl, fun _ => rfl⟩

/-- A declaration that is refused is not the first one of its name. -/
theorem Keeps.declare {env : Env} {cs : List Call} (h : Keeps env.inner cs) (binding : Binding)
    (position : Position) :
    Keeps (env.enter binding).inner (cs ++ [.declare binding position]) where
  binding? := by
    intro name
    rw [Env.inner_enter_binding?, h.binding?, List.findSome?_append, List.findSome?_singleton]
    rfl
  alias? := by
    intro word
    have haliases : (env.enter binding).inner.alias? word = env.inner.alias? word := by
      rw [Scope.alias?, Scope.alias?, Env.aliases_enter]
    rw [haliases, h.alias?, List.reverse_append]
    rfl

theorem Keeps.declareType {s : Scope} {cs : List Call} (h : Keeps s cs) (word : String) (t : Ty) :
    Keeps (s.setAlias word t) (cs ++ [.declareType word t]) where
  binding? := by
    intro name
    rw [Scope.binding?_setAlias, h.binding?, List.findSome?_append, List.findSome?_singleton]
    exact (Option.or_none ..).symm
  alias? := by
    intro w
    rw [Scope.alias?_setAlias, List.reverse_append, List.reverse_singleton,
      List.singleton_append, List.findSome?_cons, h.alias?, Call.alias?]
    by_cases hw : w = word
    · rw [if_pos hw, if_pos hw.symm]
    · rw [if_neg hw, if_neg (Ne.symm hw)]

/-- **The stack of scopes is the history, sorted by depth.** From the inside
outwards the open scopes keep the live declarations that were made at their
depths. -/
theorem scopes_run (h : History) :
    List.Forall₂ Keeps (run h).scopes ((levels (depth h)).map (liveAt h)) := by
  induction h using List.reverseRecOn with
  | nil => exact .cons Keeps.empty .nil
  | append_singleton h c ih =>
      obtain ⟨n, hn⟩ : ∃ n, depth h = n + 1 := Nat.exists_eq_add_one.mpr (depth_pos h)
      rw [hn] at ih
      obtain ⟨hinner, houter⟩ := List.forall₂_cons.mp ih
      -- The call can change the scope at its own depth and no scope further out.
      have hbelow : (levels n).map (liveAt (h ++ [c])) = (levels n).map (liveAt h) := by
        refine List.map_congr_left fun d hd => liveAt_snoc_of_ne c ?_
        have hle := le_of_mem_levels hd
        omega
      rw [run_snoc, depth_snoc, hn]
      cases c with
      | push =>
          have hnew : liveAt (h ++ [.push]) (n + 2) = [] := by
            rw [liveAt_snoc_of_ne _ (by omega)]
            exact liveAt_of_depth_lt (by omega)
          have hown : liveAt (h ++ [.push]) (n + 1) = liveAt h (n + 1) :=
            liveAt_snoc_of_open rfl rfl
          show List.Forall₂ Keeps ({} :: (run h).scopes)
            (liveAt _ (n + 2) :: liveAt _ (n + 1) :: (levels n).map (liveAt _))
          rw [hnew, hown, hbelow]
          exact .cons Keeps.empty ih
      | pop =>
          cases n with
          | zero =>
              have hlast : (run h).outer = [] := List.forall₂_nil_right_iff.mp houter
              have hown : liveAt (h ++ [.pop]) 1 = liveAt h 1 :=
                liveAt_snoc_of_open rfl (by simp [closesAt, hn])
              show List.Forall₂ Keeps (run h).pop.scopes [liveAt _ 1]
              rw [Env.pop_of_outer_eq_nil hlast, hown]
              exact ih
          | succ m =>
              have hmore : (run h).outer ≠ [] := by
                intro hlast
                rw [hlast] at houter
                cases houter
              show List.Forall₂ Keeps (run h).pop.scopes ((levels (m + 1)).map (liveAt _))
              rw [Env.scopes_pop hmore, hbelow]
              exact houter
      | declare binding position =>
          have hown := liveAt_snoc_declaration (h := h) (c := .declare binding position) rfl
          rw [hn] at hown
          rw [Call.apply_declare]
          show List.Forall₂ Keeps ((run h).enter binding).scopes
            (liveAt _ (n + 1) :: (levels n).map (liveAt _))
          rw [hown, hbelow]
          refine .cons (hinner.declare binding position) ?_
          rw [Env.outer_enter]
          exact houter
      | declareType word t =>
          have hown := liveAt_snoc_declaration (h := h) (c := .declareType word t) rfl
          rw [hn] at hown
          show List.Forall₂ Keeps ((run h).inner.setAlias word t :: (run h).outer)
            (liveAt _ (n + 1) :: (levels n).map (liveAt _))
          rw [hown, hbelow]
          exact .cons (hinner.declareType word t) houter

/-! ## Look-ups -/

theorem findSome?_eq_of_forall₂ {α β γ : Type} {f : α → Option γ} {g : β → Option γ}
    {l₁ : List α} {l₂ : List β} (h : List.Forall₂ (fun a b => f a = g b) l₁ l₂) :
    l₁.findSome? f = l₂.findSome? g := by
  induction h with
  | nil => rfl
  | cons hab _ ih => rw [List.findSome?_cons, List.findSome?_cons, hab, ih]

theorem binding?_run (h : History) (name : String) :
    (run h).binding? name = binding? h name := by
  have hscopes := List.forall₂_map_right_iff.mp (scopes_run h)
  exact findSome?_eq_of_forall₂ (hscopes.imp fun _ _ hs => hs.binding? name)

theorem word?_run (h : History) (word : String) : (run h).word? word = word? h word := by
  have hscopes := List.forall₂_map_right_iff.mp (scopes_run h)
  have hfound := findSome?_eq_of_forall₂ (hscopes.imp fun _ _ hs => hs.alias? word)
  unfold Env.word? word?
  rw [hfound, Option.orElse_eq_orElse, Option.or_eq_orElse]

/-- The innermost scope has a variable exactly if a live declaration of it was
made there. -/
theorem isSome_inner_run (h : History) (name : String) :
    ((run h).inner.binding? name).isSome = true ↔ Declares h name := by
  obtain ⟨n, hn⟩ : ∃ n, depth h = n + 1 := Nat.exists_eq_add_one.mpr (depth_pos h)
  have hscopes := scopes_run h
  rw [hn] at hscopes
  have hinner := (List.forall₂_cons.mp hscopes).1
  rw [hinner.binding?, List.findSome?_isSome_iff, Declares, hn]

theorem depth_run (h : History) : (run h).depth = depth h := by
  have hlevels : ∀ n, (levels n).length = n := by
    intro n
    induction n with
    | zero => rfl
    | succ n ih => rw [levels, List.length_cons, ih]
  rw [Env.depth, (scopes_run h).length_eq, List.length_map, hlevels]

instance (h : History) (name : String) : Decidable (Declares h name) :=
  inferInstanceAs (Decidable (∃ c ∈ liveAt h (depth h), (c.binding? name).isSome = true))

theorem declare_run (h : History) (binding : Binding) (position : Position) :
    (run h).declare binding position =
      if Declares h binding.name then .error ⟨.redeclared binding.name, position⟩
      else .ok (run (h ++ [.declare binding position])) := by
  rw [Env.declare_eq, run_snoc, Call.apply_declare]
  by_cases htaken : Declares h binding.name
  · rw [if_pos htaken, if_pos ((isSome_inner_run h _).mpr htaken)]
  · rw [if_neg htaken, if_neg (mt (isSome_inner_run h _).mp htaken)]

/-- A refused declaration leaves no trace. -/
theorem run_snoc_of_declares {h : History} {binding : Binding} (position : Position)
    (htaken : Declares h binding.name) : run (h ++ [.declare binding position]) = run h := by
  rw [run_snoc, Call.apply_declare, Env.enter, if_pos ((isSome_inner_run h _).mpr htaken)]

/-! ## Variables and words apart -/

section

variable {β : Type} {f : Scope → β} {env env' : Env}

theorem map_scopes_pop (h : env.scopes.map f = env'.scopes.map f) :
    env.pop.scopes.map f = env'.pop.scopes.map f := by
  obtain ⟨inner, outer⟩ := env
  obtain ⟨inner', outer'⟩ := env'
  obtain ⟨-, houter⟩ := List.cons.inj h
  cases outer with
  | nil =>
      cases outer' with
      | nil => exact h
      | cons => cases houter
  | cons =>
      cases outer' with
      | nil => cases houter
      | cons => exact houter

/-- If a part of the scopes depends on no other part of them, and some calls
leave it alone, then it is the same without these calls. -/
theorem map_scopes_run {skip : Call → Bool}
    (happly : ∀ {env env' : Env} (c : Call), env.scopes.map f = env'.scopes.map f →
      (c.apply env).scopes.map f = (c.apply env').scopes.map f)
    (hskip : ∀ (c : Call) (env : Env), skip c = true →
      (c.apply env).scopes.map f = env.scopes.map f) (h : History) :
    (run (h.filter (!skip ·))).scopes.map f = (run h).scopes.map f := by
  induction h using List.reverseRecOn with
  | nil => rfl
  | append_singleton h c ih =>
      rw [List.filter_append, List.filter_singleton, run_snoc]
      by_cases hc : skip c = true
      · rw [hc, hskip c _ hc]
        exact (congrArg (fun h => (run h).scopes.map f) (List.append_nil _)).trans ih
      · rw [Bool.eq_false_iff.mpr hc]
        show (run (h.filter (!skip ·) ++ [c])).scopes.map f = (c.apply (run h)).scopes.map f
        rw [run_snoc]
        exact happly c ih

/-- No call looks at the words when it changes the variables. -/
theorem map_bindings_apply (c : Call)
    (h : env.scopes.map Scope.bindings = env'.scopes.map Scope.bindings) :
    (c.apply env).scopes.map Scope.bindings = (c.apply env').scopes.map Scope.bindings := by
  obtain ⟨hinner, houter⟩ := List.cons.inj h
  cases c with
  | push => exact congrArg ([] :: ·) h
  | pop => exact map_scopes_pop h
  | declareType => exact h
  | declare binding position =>
      have htaken : (env'.inner.binding? binding.name).isSome =
          (env.inner.binding? binding.name).isSome := by
        rw [Scope.binding?, Scope.binding?, hinner]
      rw [Call.apply_declare, Call.apply_declare, Env.enter, Env.enter, htaken]
      split
      · exact h
      · show (binding :: env.inner.bindings) :: env.outer.map Scope.bindings =
          (binding :: env'.inner.bindings) :: env'.outer.map Scope.bindings
        rw [hinner, houter]

theorem map_aliases_declare (env : Env) (binding : Binding) (position : Position) :
    ((Call.declare binding position).apply env).scopes.map Scope.aliases =
      env.scopes.map Scope.aliases := by
  rw [Call.apply_declare, Env.scopes, List.map_cons, Env.aliases_enter, Env.outer_enter]
  rfl

/-- No call looks at the variables when it changes the words. -/
theorem map_aliases_apply (c : Call)
    (h : env.scopes.map Scope.aliases = env'.scopes.map Scope.aliases) :
    (c.apply env).scopes.map Scope.aliases = (c.apply env').scopes.map Scope.aliases := by
  cases c with
  | push => exact congrArg ([] :: ·) h
  | pop => exact map_scopes_pop h
  | declare binding position => rw [map_aliases_declare, map_aliases_declare, h]
  | declareType word t =>
      obtain ⟨hinner, houter⟩ := List.cons.inj h
      show ((word, t) :: env.inner.aliases) :: env.outer.map Scope.aliases =
        ((word, t) :: env'.inner.aliases) :: env'.outer.map Scope.aliases
      rw [hinner, houter]

/-- A variable is looked up among the variables. -/
theorem binding?_congr (h : env.scopes.map Scope.bindings = env'.scopes.map Scope.bindings)
    (name : String) : env.binding? name = env'.binding? name := by
  have hlookup : ∀ env : Env, env.binding? name =
      (env.scopes.map Scope.bindings).findSome? (·.find? (·.name == name)) := by
    intro env
    rw [List.findSome?_map]
    rfl
  rw [hlookup, h, ← hlookup]

/-- A type name is looked up among the words. -/
theorem type?_congr (h : env.scopes.map Scope.aliases = env'.scopes.map Scope.aliases)
    (text : String) : env.type? text = env'.type? text := by
  have hlookup : ∀ (env : Env) (word : String), env.scopes.findSome? (·.alias? word) =
      (env.scopes.map Scope.aliases).findSome? (·.lookup word) := by
    intro env word
    rw [List.findSome?_map]
    rfl
  rw [Env.type?, Env.type?, Env.word?, Env.word?, hlookup, hlookup, h]

end

theorem binding?_run_filter (h : History) (name : String) :
    (run (h.filter (!·.isAlias))).binding? name = (run h).binding? name := by
  refine binding?_congr (map_scopes_run map_bindings_apply ?_ h) name
  intro c env hc
  cases c with
  | declareType => rfl
  | push | pop | declare => cases hc

theorem type?_run_filter (h : History) (text : String) :
    (run (h.filter (!·.isVariable))).type? text = (run h).type? text := by
  refine type?_congr (map_scopes_run map_aliases_apply ?_ h) text
  intro c env hc
  cases c with
  | declare binding position => exact map_aliases_declare env binding position
  | push | pop | declareType => cases hc

end History

/-! ## The refinement -/

/-- **An environment answers by its history.** There is always a scope open, and
a pop of the last one changes nothing. A variable is the earliest live
declaration of its name in the innermost scope that has one. A declaration is
refused, with a diagnostic at the given position and without a trace, exactly if
the current scope has a live declaration of the name. A word means the latest
that it was given and that is live in the innermost such scope, and otherwise
what it means in every program. No declaration of one kind has an effect on
names of the other. -/
theorem lookups_follow_history (h : History) :
    (0 < h.run.depth ∧ h.run.depth = h.depth ∧ (h.run.depth = 1 → h.run.pop = h.run)) ∧
    (∀ name, h.run.binding? name = h.binding? name) ∧
    (∀ binding position,
      h.run.declare binding position =
        (if h.Declares binding.name then .error ⟨.redeclared binding.name, position⟩
          else .ok (History.run (h ++ [.declare binding position]))) ∧
      (h.Declares binding.name → History.run (h ++ [.declare binding position]) = h.run)) ∧
    (∀ text, TypeName.IsWord text → h.run.type? text = h.word? text) ∧
    (∀ name, (History.run (h.filter (!·.isAlias))).binding? name = h.run.binding? name) ∧
    ∀ text, (History.run (h.filter (!·.isVariable))).type? text = h.run.type? text := by
  refine ⟨⟨h.run.depth_pos, h.depth_run, ?_⟩, h.binding?_run, ?_, ?_, h.binding?_run_filter,
    h.type?_run_filter⟩
  · intro hdepth
    have houter : h.run.outer = [] := by
      rw [Env.depth, Env.scopes, List.length_cons] at hdepth
      exact List.eq_nil_of_length_eq_zero (by omega)
    exact Env.pop_of_outer_eq_nil houter
  · intro binding position
    exact ⟨h.declare_run binding position, History.run_snoc_of_declares position⟩
  · intro text hword
    rw [Env.type?, TypeName.parse_of_isWord hword, History.word?_run]
    cases h.word? text <;> rfl

/-- A variable `x` and a word `row` are declared in a scope that is closed
again, one pop comes too many, and then both are declared twice. -/
def shadowedHistory : History :=
  [.declareType "row" .number, .push, .declare ⟨"x", .boolean, false⟩ .nowhere,
    .declareType "row" .boolean, .pop, .pop, .declare ⟨"x", .string, true⟩ .nowhere,
    .declare ⟨"x", .character, false⟩ .nowhere, .push, .declareType "row" .string,
    .declareType "row" (.array .string)]

/-- The first `x` and the last `row` that are left, `row` in the inner scope.
Where the last scope is open alone, it is not closed, and no `x` is declared in
it any more. -/
theorem lookups_follow_history_shadowed :
    let outermost : History := shadowedHistory.take 7
    (TypeName.IsWord "row" ∧
      shadowedHistory.run.type? "row" = some (.array .string) ∧
      shadowedHistory.run.binding? "x" = some ⟨"x", .string, true⟩) ∧
    (outermost.run.depth = 1 ∧ outermost.run.pop = outermost.run) ∧
    outermost.Declares "x" ∧
      History.run (outermost ++ [.declare ⟨"x", .character, false⟩ .nowhere]) = outermost.run := by
  intro outermost
  have hword : TypeName.IsWord "row" := by decide
  have hdepth : outermost.run.depth = 1 := by decide
  have hdeclared : outermost.Declares "x" := by decide
  obtain ⟨-, hvariable, -, hmeaning, -⟩ := lookups_follow_history shadowedHistory
  obtain ⟨⟨-, -, hpop⟩, -, hdeclare, -⟩ := lookups_follow_history outermost
  have hrefused := (hdeclare ⟨"x", .character, false⟩ .nowhere).2 hdeclared
  refine ⟨⟨hword, ?_, ?_⟩, ⟨hdepth, hpop hdepth⟩, hdeclared, hrefused⟩
  · rw [hmeaning "row" hword]
    decide
  · rw [hvariable]
    decide

end Gradual

import Gradual.Proofs.Expr.Resolution
import Mathlib.Data.List.Nodup
import Mathlib.Data.List.Perm.Subperm
import Mathlib.Data.List.Sigma

/-!
# Who is blamed

Each diagnostic of an expression is about one of its nodes: about a reference whose
name means nothing, or about a part of a node that does not meet what the node asks
of it. Nodes may look alike, so a node is told by its `Address`, the numbers of the
parts that one goes down to.

`Expr.charges` lists the diagnostics of an expression, each with the address of the
node that it is charged to, and no address is charged twice (`Expr.nodup_charges`).
Two things could charge a node, its own name and the node above it. But a reference
whose name means nothing has the wildcard type and can be written to, and then
nothing above it has anything to say about it (`Expr.blamePart_unknown`).
-/

namespace Gradual

/-! ## Addresses -/

/-- Where a node stands: the numbers of the parts to go down to, from the whole. -/
abbrev Address := List Nat

namespace Expr

variable {ρ : Type}

/-- The node at an address. -/
def nodeAt? : Expr ρ → Address → Option (Expr ρ)
  | e, [] => some e
  | e, i :: a => e.parts[i]?.bind (·.nodeAt? a)

/-- One part further down. -/
theorem nodeAt?_snoc (e : Expr ρ) (a : Address) (i : Nat) :
    e.nodeAt? (a ++ [i]) = (e.nodeAt? a).bind (·.parts[i]?) := by
  induction a generalizing e with
  | nil =>
      rw [List.nil_append, nodeAt?, nodeAt?, Option.bind_some]
      exact Option.bind_fun_some _
  | cons j a ih =>
      rw [List.cons_append, nodeAt?, nodeAt?, Option.bind_assoc]
      exact Option.bind_congr fun p _ => ih p

theorem nodeAt?_part {e whole p : Expr ρ} {a : Address} {i : Nat}
    (hwhole : e.nodeAt? a = some whole) (hp : whole.parts[i]? = some p) :
    e.nodeAt? (a ++ [i]) = some p := by
  rw [nodeAt?_snoc, hwhole, Option.bind_some, hp]

mutual

/-- The nodes of an expression in the order of the walk, with their addresses. -/
def places : Expr ρ → List (Address × Expr ρ)
  | number span => [([], number span)]
  | character value span => [([], character value span)]
  | string value span => [([], string value span)]
  | boolean value span => [([], boolean value span)]
  | array elements span => placesAll 0 elements ++ [([], array elements span)]
  | ref name target span => [([], ref name target span)]
  | index base subscript span =>
      base.places.map (fun q => (0 :: q.1, q.2)) ++
        subscript.places.map (fun q => (1 :: q.1, q.2)) ++ [([], index base subscript span)]
  | binary op left right span =>
      left.places.map (fun q => (0 :: q.1, q.2)) ++
        right.places.map (fun q => (1 :: q.1, q.2)) ++ [([], binary op left right span)]
  | unary op operand span =>
      operand.places.map (fun q => (0 :: q.1, q.2)) ++ [([], unary op operand span)]
  | assign target value span =>
      target.places.map (fun q => (0 :: q.1, q.2)) ++
        value.places.map (fun q => (1 :: q.1, q.2)) ++ [([], assign target value span)]

/-- The same for parts that are numbered from `i` on. -/
def placesAll (i : Nat) : List (Expr ρ) → List (Address × Expr ρ)
  | [] => []
  | e :: rest => e.places.map (fun q => (i :: q.1, q.2)) ++ placesAll (i + 1) rest

end

/-- The nodes in a part, seen from the whole. -/
def placesBelow (q : Expr ρ × Nat) : List (Address × Expr ρ) :=
  q.1.places.map fun p => (q.2 :: p.1, p.2)

theorem placesAll_eq (i : Nat) (es : List (Expr ρ)) :
    placesAll i es = (es.zipIdx i).flatMap placesBelow := by
  induction es generalizing i with
  | nil => rfl
  | cons e rest ih => rw [placesAll, ih, List.zipIdx_cons, List.flatMap_cons]; rfl

theorem places_eq_parts (e : Expr ρ) :
    e.places = e.parts.zipIdx.flatMap placesBelow ++ [([], e)] := by
  cases e <;> simp [places, parts, placesAll_eq, placesBelow]

theorem map_snd_places (e : Expr ρ) : e.places.map Prod.snd = e.nodes := by
  induction e using parts_induct with
  | node e ih =>
      have hparts : (e.parts.zipIdx.flatMap placesBelow).map Prod.snd = e.parts.flatMap nodes := by
        conv_rhs => rw [← List.zipIdx_map_fst 0 e.parts, List.flatMap_map]
        rw [List.map_flatMap]
        refine List.flatMap_congr fun q hq => ?_
        rw [placesBelow, List.map_map, ← ih q.1 (List.fst_mem_of_mem_zipIdx hq)]
        rfl
      rw [places_eq_parts, nodes_eq_parts, List.map_append, hparts]
      rfl

theorem nodeAt?_of_mem_places {e n : Expr ρ} {a : Address} (h : (a, n) ∈ e.places) :
    e.nodeAt? a = some n := by
  induction e using parts_induct generalizing a with
  | node e ih =>
      rw [places_eq_parts, List.mem_append, List.mem_flatMap] at h
      rcases h with ⟨⟨p, i⟩, hpart, h⟩ | h
      · obtain ⟨⟨b, m⟩, hm, hb⟩ := List.mem_map.mp h
        obtain ⟨rfl, rfl⟩ := Prod.mk.inj hb
        have hp : e.parts[i]? = some p := List.mk_mem_zipIdx_iff_getElem?.mp hpart
        rw [nodeAt?, hp, Option.bind_some]
        exact ih p (List.mem_of_getElem? hp) hm
      · obtain ⟨rfl, rfl⟩ := Prod.mk.inj (List.mem_singleton.mp h)
        rfl

theorem mem_places_iff {e n : Expr ρ} {a : Address} :
    (a, n) ∈ e.places ↔ e.nodeAt? a = some n := by
  refine ⟨nodeAt?_of_mem_places, ?_⟩
  intro h
  induction a generalizing e with
  | nil =>
      obtain rfl := Option.some.inj h
      rw [places_eq_parts]
      exact List.mem_append_right _ (List.mem_singleton_self _)
  | cons i a ih =>
      obtain ⟨p, hp, h⟩ := Option.bind_eq_some_iff.mp h
      have hbelow : (i :: a, n) ∈ placesBelow (p, i) := List.mem_map.mpr ⟨(a, n), ih h, rfl⟩
      rw [places_eq_parts]
      exact List.mem_append_left _
        (List.mem_flatMap.mpr ⟨(p, i), List.mk_mem_zipIdx_iff_getElem?.mpr hp, hbelow⟩)

end Expr

/-- What is listed for different members of a list is different, if it tells the number
of the member. -/
theorem nodup_flatMap_zipIdx {α β : Type} {l : List α} {f : α × Nat → List β}
    (hnodup : ∀ q ∈ l.zipIdx, (f q).Nodup)
    (htells : ∀ p q b, b ∈ f p → b ∈ f q → p.2 = q.2) : (l.zipIdx.flatMap f).Nodup := by
  refine List.nodup_flatMap.mpr ⟨hnodup, ?_⟩
  have hnumbers : l.zipIdx.Pairwise (fun p q => p.2 ≠ q.2) :=
    List.pairwise_map.mp (List.nodup_zipIdx_map_snd l)
  exact hnumbers.imp fun hne b hp hq => hne (htells _ _ b hp hq)

namespace Expr

variable {ρ : Type}

/-- Every node has an address of its own. -/
theorem nodup_places (e : Expr ρ) : (e.places.map Prod.fst).Nodup := by
  induction e using parts_induct with
  | node e ih =>
      have hbelow : ∀ q : Expr ρ × Nat,
          (placesBelow q).map Prod.fst = (q.1.places.map Prod.fst).map (q.2 :: ·) := by
        intro q
        rw [placesBelow, List.map_map, List.map_map]
        rfl
      rw [places_eq_parts, List.map_append, List.map_flatMap]
      refine List.nodup_append.mpr ⟨nodup_flatMap_zipIdx ?_ ?_, List.nodup_singleton _, ?_⟩
      · intro q hq
        rw [hbelow]
        exact (ih q.1 (List.fst_mem_of_mem_zipIdx hq)).map (List.cons_injective)
      · intro p q a hp hq
        rw [hbelow] at hp hq
        obtain ⟨b, -, rfl⟩ := List.mem_map.mp hp
        obtain ⟨c, -, hc⟩ := List.mem_map.mp hq
        exact (List.cons.inj hc).1.symm
      · intro a ha b hb
        obtain rfl := List.mem_singleton.mp hb
        obtain ⟨q, -, ha⟩ := List.mem_flatMap.mp ha
        rw [hbelow] at ha
        obtain ⟨c, -, rfl⟩ := List.mem_map.mp ha
        exact List.cons_ne_nil _ _

/-! ## What a node says of its parts -/

/-- What is wrong with a reference by itself. -/
def blameName : ResolvedExpr → List Diagnostic
  | ref name target span => complain target.isSome (.undeclared name) span.start
  | _ => []

/-- What a binary operator has to say of its left operand. It answers for a failed test
for equality. A left operand of an order comparison that is a number is asked for a
number once more, which it is. -/
def blameLeft (options : Options) (op : BinaryOp) (left right : ResolvedExpr)
    (position : Position) : List Diagnostic :=
  match op.family with
  | .arithmetic => unmet .number op.token left
  | .shift => unmet .integer op.token left
  | .logical => unmet .boolean op.token left
  | .relational =>
      match left.ty with
      | .number => unmet .number op.token left
      | .character | .string | .any => []
      | .boolean | .array _ =>
          complain (!options.strictRelational) (.unordered op.token left.ty) left.start
  | .equality =>
      complain (equatable left.ty right.ty) (.incomparable op.token left.ty right.ty) position

/-- What a binary operator has to say of its right operand. -/
def blameRight (op : BinaryOp) (left right : ResolvedExpr) : List Diagnostic :=
  match op.family with
  | .arithmetic => unmet .number op.token right
  | .shift => unmet .integer op.token right
  | .logical => unmet .boolean op.token right
  | .relational =>
      match left.ty with
      | .number => unmet .number op.token right
      | .character => unmet .character op.token right
      | .string => unmet .string op.token right
      | .any | .boolean | .array _ => []
  | .equality => []

/-- What a node has to say of its part `p` with the number `i`. The first element of an
array literal is not asked for anything. -/
def blamePart (options : Options) : ResolvedExpr → Nat → ResolvedExpr → List Diagnostic
  | array (first :: _) _, _ + 1, p => misplaced .element first.ty p
  | index _ _ _, 0, p => unmet .sequence "[]" p
  | index _ _ _, 1, p => unmet .integer "[]" p
  | binary op _ right span, 0, p => blameLeft options op p right span.start
  | binary op left _ _, 1, p => blameRight op left p
  | unary op _ _, 0, p => unmet (requirementOf op) op.token p
  | assign _ _ _, 0, p => complain p.isWritable .notWritable p.start
  | assign target _ _, 1, p => misplaced .assignment target.ty p
  | _, _, _ => []

theorem blameBinary_eq (options : Options) (op : BinaryOp) (left right : ResolvedExpr)
    (position : Position) :
    blameBinary options op left right position =
      blameLeft options op left right position ++ blameRight op left right := by
  unfold blameBinary blameLeft blameRight
  cases op.family with
  | arithmetic | shift | logical => rfl
  | equality => exact (List.append_nil _).symm
  | relational =>
      unfold blameRelational
      cases hty : left.ty with
      | number => simp [unmet_number_eq_nil hty]
      | character | string | any => rfl
      | boolean | array => exact (List.append_nil _).symm

theorem blame_array_cons (options : Options) (first : ResolvedExpr) (rest : List ResolvedExpr)
    (span : Span) :
    blame options (array (first :: rest) span) =
      (first :: rest).zipIdx.flatMap fun q =>
        blamePart options (array (first :: rest) span) q.2 q.1 := by
  have hrest : ∀ q ∈ rest.zipIdx 1,
      blamePart options (array (first :: rest) span) q.2 q.1 = misplaced .element first.ty q.1 := by
    rintro ⟨p, i⟩ hq
    obtain ⟨j, rfl⟩ := Nat.exists_eq_add_of_le' (List.le_snd_of_mem_zipIdx hq)
    rfl
  have hfirst : blamePart options (array (first :: rest) span) 0 first = [] := rfl
  rw [List.zipIdx_cons, List.flatMap_cons, hfirst, List.nil_append, List.flatMap_congr hrest, blame]
  conv_lhs => rw [← List.zipIdx_map_fst 1 rest, List.flatMap_map]

/-- What is wrong with a node is what is wrong with its name, and with its parts one
after the other. -/
theorem blame_eq_parts (options : Options) (e : ResolvedExpr) :
    e.blame options =
      e.blameName ++ e.parts.zipIdx.flatMap fun q => e.blamePart options q.2 q.1 := by
  cases e with
  | number | character | string | boolean => rfl
  | ref name target span => exact (List.append_nil _).symm
  | array elements span =>
      cases elements with
      | nil => rfl
      | cons first rest => exact blame_array_cons options first rest span
  | index base subscript span => simp [blame, blameName, parts, blamePart]
  | binary op left right span => simp [blame, blameName, parts, blamePart, blameBinary_eq]
  | unary op operand span => simp [blame, blameName, parts, blamePart]
  | assign target value span => simp [blame, blameName, parts, blamePart]

/-! ### One at most -/

theorem length_complain_le (ok : Bool) (cause : Cause) (position : Position) :
    (complain ok cause position).length ≤ 1 := by
  cases ok <;> simp [complain]

theorem length_blameName_le (e : ResolvedExpr) : e.blameName.length ≤ 1 := by
  cases e with
  | ref => exact length_complain_le ..
  | _ => exact Nat.zero_le _

theorem length_blameLeft_le (options : Options) (op : BinaryOp) (left right : ResolvedExpr)
    (position : Position) : (blameLeft options op left right position).length ≤ 1 := by
  unfold blameLeft
  cases op.family with
  | arithmetic | shift | logical | equality => exact length_complain_le ..
  | relational =>
      cases left.ty with
      | number | boolean | array => exact length_complain_le ..
      | character | string | any => exact Nat.zero_le _

theorem length_blameRight_le (op : BinaryOp) (left right : ResolvedExpr) :
    (blameRight op left right).length ≤ 1 := by
  unfold blameRight
  cases op.family with
  | arithmetic | shift | logical => exact length_complain_le ..
  | equality => exact Nat.zero_le _
  | relational =>
      cases left.ty with
      | number | character | string => exact length_complain_le ..
      | any | boolean | array => exact Nat.zero_le _

theorem length_blamePart_le (options : Options) (e : ResolvedExpr) (i : Nat) (p : ResolvedExpr) :
    (e.blamePart options i p).length ≤ 1 := by
  unfold blamePart
  split
  · exact length_complain_le ..
  · exact length_complain_le ..
  · exact length_complain_le ..
  · exact length_blameLeft_le ..
  · exact length_blameRight_le ..
  · exact length_complain_le ..
  · exact length_complain_le ..
  · exact length_complain_le ..
  · exact Nat.zero_le _

/-! ### Nothing about a reference that means nothing -/

section

variable {name : String} {span : Span}

theorem unmet_unknown (r : Requirement) (operator : String) :
    unmet r operator (ref name none span) = [] :=
  rfl

theorem misplaced_unknown (site : Site) (expected : Ty) :
    misplaced site expected (ref name none span) = [] :=
  complain_eq_nil.mpr (Ty.any_assignable expected)

theorem blameLeft_unknown (options : Options) (op : BinaryOp) (right : ResolvedExpr)
    (position : Position) : blameLeft options op (ref name none span) right position = [] := by
  unfold blameLeft
  cases op.family with
  | arithmetic | shift | logical => exact unmet_unknown ..
  | relational | equality => rfl

theorem blameRight_unknown (op : BinaryOp) (left : ResolvedExpr) :
    blameRight op left (ref name none span) = [] := by
  unfold blameRight
  cases op.family with
  | arithmetic | shift | logical => exact unmet_unknown ..
  | equality => rfl
  | relational =>
      cases left.ty with
      | number | character | string => exact unmet_unknown ..
      | any | boolean | array => rfl

/-- No node has anything to say of a part that was blamed for its name. -/
theorem blamePart_unknown (options : Options) (e : ResolvedExpr) (i : Nat) :
    e.blamePart options i (ref name none span) = [] := by
  unfold blamePart
  split
  · exact misplaced_unknown ..
  · exact unmet_unknown ..
  · exact unmet_unknown ..
  · exact blameLeft_unknown ..
  · exact blameRight_unknown ..
  · exact unmet_unknown ..
  · rfl
  · exact misplaced_unknown ..
  · rfl

end

/-! ## Charges -/

/-- The diagnostic is about the node at the address: its name means nothing, or the
node above has this to say of it. -/
inductive Charged (options : Options) (e : ResolvedExpr) : Address → Diagnostic → Prop where
  | name {a : Address} {name : String} {span : Span} :
      e.nodeAt? a = some (.ref name none span) →
        Charged options e a ⟨.undeclared name, span.start⟩
  | part {a : Address} {whole p : ResolvedExpr} {i : Nat} {d : Diagnostic} :
      e.nodeAt? a = some whole → whole.parts[i]? = some p → d ∈ whole.blamePart options i p →
        Charged options e (a ++ [i]) d

/-- What is wrong with the node at a place, with the addresses that it is charged to. -/
def chargesAt (options : Options) (q : Address × ResolvedExpr) : List (Address × Diagnostic) :=
  q.2.blameName.map (q.1, ·) ++ q.2.parts.zipIdx.flatMap fun p =>
    (q.2.blamePart options p.2 p.1).map (q.1 ++ [p.2], ·)

/-- The diagnostics of an expression in the order of the walk, with the addresses that
they are charged to. -/
def charges (options : Options) (e : ResolvedExpr) : List (Address × Diagnostic) :=
  e.places.flatMap (chargesAt options)

variable {options : Options} {e : ResolvedExpr}

/-- All that is wrong with an expression is charged to someone. -/
theorem map_snd_charges (options : Options) (e : ResolvedExpr) :
    (e.charges options).map Prod.snd = e.violations options := by
  have hplace : ∀ q : Address × ResolvedExpr,
      (chargesAt options q).map Prod.snd = q.2.blame options := by
    intro q
    rw [blame_eq_parts]
    simp [chargesAt, List.map_flatMap, Function.comp_def]
  rw [charges, violations, ← map_snd_places, List.map_flatMap, List.flatMap_map]
  exact List.flatMap_congr fun q _ => hplace q

theorem eq_ref_of_mem_blameName {n : ResolvedExpr} {d : Diagnostic} (h : d ∈ n.blameName) :
    ∃ name span, n = .ref name none span ∧ d = ⟨.undeclared name, span.start⟩ := by
  cases n with
  | ref name target span =>
      cases target with
      | none => exact ⟨name, span, rfl, List.mem_singleton.mp h⟩
      | some => cases h
  | number | character | string | boolean | array | index | binary | unary | assign => cases h

/-- What is charged at a place is charged to the node there for its name, or to a part
of it. -/
theorem mem_chargesAt {q : Address × ResolvedExpr} {c : Address × Diagnostic}
    (h : c ∈ chargesAt options q) :
    (∃ name span, q.2 = .ref name none span ∧ c = (q.1, ⟨.undeclared name, span.start⟩)) ∨
      ∃ i p, q.2.parts[i]? = some p ∧ c.1 = q.1 ++ [i] ∧ c.2 ∈ q.2.blamePart options i p := by
  rcases List.mem_append.mp h with h | h
  · obtain ⟨d, hd, rfl⟩ := List.mem_map.mp h
    obtain ⟨name, span, hq, rfl⟩ := eq_ref_of_mem_blameName hd
    exact Or.inl ⟨name, span, hq, rfl⟩
  · obtain ⟨⟨p, i⟩, hp, h⟩ := List.mem_flatMap.mp h
    obtain ⟨d, hd, rfl⟩ := List.mem_map.mp h
    exact Or.inr ⟨i, p, List.mk_mem_zipIdx_iff_getElem?.mp hp, rfl, hd⟩

theorem charged_of_mem_charges {c : Address × Diagnostic} (h : c ∈ e.charges options) :
    e.Charged options c.1 c.2 := by
  obtain ⟨⟨a, n⟩, hplace, h⟩ := List.mem_flatMap.mp h
  have hnode := nodeAt?_of_mem_places hplace
  rcases mem_chargesAt h with ⟨name, span, rfl, rfl⟩ | ⟨i, p, hp, ha, hd⟩
  · exact .name hnode
  · rw [ha]
    exact .part hnode hp hd

/-- A node is charged at its own place, or at the place of the node above. -/
theorem eq_of_mem_chargesAt {q r : Address × ResolvedExpr} (hq : q ∈ e.places)
    (hr : r ∈ e.places) {a : Address} {c d : Diagnostic} (hc : (a, c) ∈ chargesAt options q)
    (hd : (a, d) ∈ chargesAt options r) : q.1 = r.1 := by
  have hnodeq := nodeAt?_of_mem_places hq
  have hnoder := nodeAt?_of_mem_places hr
  -- Between a name and the node above there is a choice for no reference.
  have hnever : ∀ {b : Address} {whole p : ResolvedExpr} {i : Nat} {name : String} {span : Span}
      {d : Diagnostic}, e.nodeAt? b = some whole → whole.parts[i]? = some p →
      e.nodeAt? (b ++ [i]) = some (.ref name none span) → d ∉ whole.blamePart options i p := by
    intro b whole p i name span d hwhole hp hname
    rw [nodeAt?_part hwhole hp] at hname
    rw [Option.some.inj hname, blamePart_unknown]
    exact List.not_mem_nil
  rcases mem_chargesAt hc with ⟨name, span, hname, hc⟩ | ⟨i, p, hp, hi, hc⟩ <;>
    rcases mem_chargesAt hd with ⟨name', span', hname', hd⟩ | ⟨j, p', hp', hj, hd⟩
  · exact (congrArg Prod.fst hc).symm.trans (congrArg Prod.fst hd)
  · obtain ⟨rfl, -⟩ := Prod.mk.inj hc
    rw [hname, hj] at hnodeq
    exact absurd hd (hnever hnoder hp' hnodeq)
  · obtain ⟨rfl, -⟩ := Prod.mk.inj hd
    rw [hname', hi] at hnoder
    exact absurd hc (hnever hnodeq hp hnoder)
  · exact List.append_inj_left' (hi.symm.trans hj) rfl

theorem nodup_map_of_length_le_one {α β : Type} {l : List α} (h : l.length ≤ 1) (f : α → β) :
    (l.map f).Nodup := by
  cases l with
  | nil => exact List.nodup_nil
  | cons a rest =>
      have hrest : rest = [] := List.eq_nil_of_length_eq_zero (by simpa using h)
      subst hrest
      exact List.nodup_singleton _

theorem nodup_chargesAt (options : Options) (q : Address × ResolvedExpr) :
    ((chargesAt options q).map Prod.fst).Nodup := by
  by_cases hname : q.2.blameName = []
  · -- No part is spoken of twice.
    rw [chargesAt, hname, List.map_nil, List.nil_append, List.map_flatMap]
    refine nodup_flatMap_zipIdx ?_ ?_
    · intro p _
      rw [List.map_map]
      exact nodup_map_of_length_le_one (length_blamePart_le ..) _
    · intro p r a hp hr
      rw [List.map_map] at hp hr
      obtain ⟨_, -, rfl⟩ := List.mem_map.mp hp
      obtain ⟨_, -, hr⟩ := List.mem_map.mp hr
      exact (List.append_singleton_inj.mp hr).2.symm
  · -- Only a reference has a name, and it has no parts.
    obtain ⟨d, hd⟩ := List.exists_mem_of_ne_nil _ hname
    obtain ⟨name, span, hq, -⟩ := eq_ref_of_mem_blameName hd
    have hparts : q.2.parts = [] := by rw [hq, parts]
    rw [chargesAt, hparts, List.zipIdx_nil, List.flatMap_nil, List.append_nil, List.map_map]
    exact nodup_map_of_length_le_one (length_blameName_le q.2) _

/-- **No node is charged twice.** -/
theorem nodup_charges (options : Options) (e : ResolvedExpr) :
    ((e.charges options).map Prod.fst).Nodup := by
  have hplaces : e.places.Pairwise fun q r => q.1 ≠ r.1 :=
    List.pairwise_map.mp (nodup_places e)
  rw [charges, List.map_flatMap, List.nodup_flatMap]
  refine ⟨fun q _ => nodup_chargesAt options q, hplaces.imp_of_mem ?_⟩
  intro q r hq hr hne a haq har
  obtain ⟨⟨_, c⟩, hc, rfl⟩ := List.mem_map.mp haq
  obtain ⟨⟨_, d⟩, hd, rfl⟩ := List.mem_map.mp har
  exact hne (eq_of_mem_chargesAt hq hr hc hd)

/-! ## How many there are -/

theorem Charged.exists_node {a : Address} {d : Diagnostic} (h : e.Charged options a d) :
    ∃ n, e.nodeAt? a = some n := by
  cases h with
  | name hname => exact ⟨_, hname⟩
  | part hwhole hp hd => exact ⟨_, nodeAt?_part hwhole hp⟩

/-- There is no node above the whole, so it is charged for its name only. -/
theorem Charged.eq_ref {d : Diagnostic} (h : e.Charged options [] d) :
    ∃ name span, e = .ref name none span := by
  generalize ha : ([] : Address) = a at h
  cases h with
  | name hname =>
      subst ha
      exact ⟨_, _, Option.some.inj hname⟩
  | part => exact absurd ha.symm (List.append_ne_nil_of_right_ne_nil _ (List.cons_ne_nil _ _))

theorem map_fst_charges_subset (options : Options) (e : ResolvedExpr) :
    (e.charges options).map Prod.fst ⊆ e.places.map Prod.fst := by
  intro a ha
  obtain ⟨c, hc, rfl⟩ := List.mem_map.mp ha
  obtain ⟨n, hn⟩ := (charged_of_mem_charges hc).exists_node
  exact List.mem_map.mpr ⟨(c.1, n), mem_places_iff.mpr hn, rfl⟩

theorem length_places (e : ResolvedExpr) : (e.places.map Prod.fst).length = e.nodes.length := by
  rw [List.length_map, ← map_snd_places, List.length_map]

theorem length_violations (options : Options) (e : ResolvedExpr) :
    (e.violations options).length = ((e.charges options).map Prod.fst).length := by
  rw [← map_snd_charges, List.length_map, List.length_map]

theorem length_violations_le (options : Options) (e : ResolvedExpr) :
    (e.violations options).length ≤ e.nodes.length := by
  rw [length_violations, ← length_places]
  exact ((nodup_charges options e).subperm (map_fst_charges_subset options e)).length_le

/-- The whole is a node that goes free, unless it is a reference that means nothing. -/
theorem length_violations_lt (options : Options) {e : ResolvedExpr}
    (h : ∀ name span, e ≠ .ref name none span) :
    (e.violations options).length < e.nodes.length := by
  have hfree : [] ∉ (e.charges options).map Prod.fst := by
    intro hmem
    obtain ⟨⟨_, d⟩, hc, rfl⟩ := List.mem_map.mp hmem
    obtain ⟨name, span, he⟩ := (charged_of_mem_charges hc).eq_ref
    exact h name span he
  have hwhole : [] ∈ e.places.map Prod.fst :=
    List.mem_map.mpr ⟨([], e), mem_places_iff.mpr rfl, rfl⟩
  have hsubset : [] :: (e.charges options).map Prod.fst ⊆ e.places.map Prod.fst :=
    List.cons_subset.mpr ⟨hwhole, map_fst_charges_subset options e⟩
  rw [length_violations, ← length_places]
  exact ((List.nodup_cons.mpr ⟨hfree, nodup_charges options e⟩).subperm hsubset).length_le

end Expr

end Gradual

/-
# Expressions read back

Each node of an expression is written as a variant, and each variant is read back exactly if levels
are left for it: one for the object around its content, one for its fields, and one for the list
that a call has among its fields (`Expr.levels`).  These are the levels of the text itself
(`Json.nests_expr`), so a stored expression is read back if its text nests no deeper than JSON is
read, is refused if it does, and is never read as another one (`Expr.readsBack_of_wholeWithin`).
-/

import Mathlib
import RecordFilter.Json.Expr
import RecordFilter.Proofs.Expr.Literals
import RecordFilter.Proofs.Json.Nesting

namespace RecordFilter

namespace Expr

/-! ### Levels -/

mutual

/-- The number of levels of arrays and objects in the JSON of an expression. -/
def levels : Expr → Nat
  | name _ => 1
  | literal v => v.depth + 1
  | member object property _ => max object.levels property.levels + 2
  | list items => levelsOfAll items + 2
  | call _ arguments => levelsOfAll arguments + 3
  | logical _ left right | binary _ left right => max left.levels right.levels + 2
  | unary _ operand => operand.levels + 2
  | record => 0
  | conditional condition positive negative =>
    max condition.levels (max positive.levels negative.levels) + 2

/-- The number of levels of the deepest of several expressions. -/
def levelsOfAll : List Expr → Nat
  | [] => 0
  | e :: rest => max e.levels (levelsOfAll rest)

end

/-- The levels of several expressions are the most that one has. -/
theorem levelsOfAll_eq (es : List Expr) : levelsOfAll es = (es.map levels).foldr max 0 := by
  induction es with
  | nil => rfl
  | cons e es ih => rw [levelsOfAll, ih, List.map_cons, List.foldr_cons]

/-- Levels suffice for several expressions if they do for each. -/
theorem levelsOfAll_add_le {es : List Expr} {k n : Nat} :
    levelsOfAll es + k ≤ n ↔ k ≤ n ∧ ∀ e ∈ es, e.levels + k ≤ n := by
  induction es with
  | nil => simp [levelsOfAll]
  | cons e es ih =>
    rw [List.forall_mem_cons, and_left_comm, ← ih, levelsOfAll]
    omega

/-! ### Texts -/

/-- A variant is an object with one entry. -/
theorem variantJson_eq (name : String) (content : List Char) :
    variantJson name content =
      '\x7b' :: (Json.entryText Text.jsonChar (name, content) ++ ['\x7d']) := by
  rw [variantJson, Json.entryText, List.append_assoc]
  rfl

/-- Fields are entries with commas between them. -/
theorem fieldsJson_eq (fields : List (String × List Char)) :
    fieldsJson fields = Json.commas (fields.map (Json.entryText Text.jsonChar)) :=
  Json.eq_commas fieldsJson (Json.entryText Text.jsonChar) rfl (fun _ => rfl)
    (fun _ _ _ => (List.append_assoc _ (':' :: _) _).symm) fields

/-- Items are expressions with commas between them. -/
theorem writtenItems_eq (items : List Expr) :
    writtenItems items = Json.commas (items.map written) :=
  Json.eq_commas writtenItems written rfl (fun _ => rfl) (fun _ _ _ => rfl) items

/-- The JSON of an expression starts with no blank. -/
theorem starts_written (e : Expr) : Json.Starts e.written := by
  cases e
  all_goals exact ⟨_, _, rfl, by decide, by decide⟩

end Expr

namespace Json

variable {α β γ : Type} {levels n k : Nat} {a : α} {b : β} {c : γ} {p q r : Prop}
  {text textA textB textC content : List Char} {name nameA nameB nameC : String}
  {readA : Read α} {readB : Read β} {readC : Read γ} {e : Expr}

/-! ### Levels of a text -/

/-- A variant nests one level around its content. -/
theorem nests_variantJson (name : String) (h : Nests content n) :
    Nests (Expr.variantJson name content) (n + 1) := by
  rw [Expr.variantJson_eq]
  exact (nests_entryText name h).enclosed (by decide)

/-- A variant with fields nests two levels around them. -/
theorem nests_structureJson {fields : List (String × List Char)} {ns : List Nat} (name : String)
    (h : List.Forall₂ (fun field n => Nests field.2 n) fields ns) :
    Nests (Expr.structureJson name fields) (ns.foldr max 0 + 2) := by
  have hfields : Nests (commas (fields.map (entryText Text.jsonChar))) (ns.foldr max 0) :=
    nests_commas (List.forall₂_map_left_iff.2 (h.imp fun _ _ => nests_entryText _))
  rw [Expr.structureJson, Expr.fieldsJson_eq]
  exact nests_variantJson name (hfields.enclosed (by decide))

/-- An array of expressions nests one level around them. -/
theorem nests_array {items : List Expr} (h : ∀ e ∈ items, Nests e.written e.levels) :
    Nests ('[' :: (Expr.writtenItems items ++ [']'])) (Expr.levelsOfAll items + 1) := by
  rw [Expr.writtenItems_eq, Expr.levelsOfAll_eq]
  exact (nests_commas_map h).enclosed (by decide)

/-- An operator with two operands. -/
theorem nests_operation (name op : String) (hl : Nests textA n) (hr : Nests textB k) :
    Nests (Expr.structureJson name [("op", Expr.plainJson op), ("lhs", textA), ("rhs", textB)])
      (max n k + 2) := by
  refine (nests_structureJson name
    (.cons (nests_stringJson op) (.cons hl (.cons hr .nil)))).congr ?_
  simp

/-- The JSON of an expression has its levels. -/
theorem nests_expr (hwhole : ∀ v ∈ e.literals, v.Everywhere (Value.WholeWithin (2 ^ 63))) :
    Nests e.written e.levels := by
  induction e using Expr.induct with
  | name n => exact nests_variantJson _ (nests_stringJson n)
  | literal v => exact nests_variantJson _ (nests_written (hwhole v List.mem_cons_self))
  | record => exact nests_stringJson _
  | member object property computed iho ihp =>
    obtain ⟨ho, hp⟩ := List.forall_mem_append.1 hwhole
    have hcomputed : Nests ((Value.bool computed).written Value.numberJson) 0 :=
      nests_written (.single trivial rfl)
    refine (nests_structureJson _ (.cons (iho ho) (.cons (ihp hp) (.cons hcomputed .nil)))).congr ?_
    simp [Expr.levels]
  | list items ih =>
    refine nests_variantJson _ (nests_array fun e he => ih e he ?_)
    exact Expr.forall_mem_literalsOfAll.1 hwhole e he
  | call callee arguments ih =>
    have harguments := nests_array fun e he =>
      ih e he (Expr.forall_mem_literalsOfAll.1 hwhole e he)
    refine (nests_structureJson _
      (.cons (nests_stringJson callee) (.cons harguments .nil))).congr ?_
    simp [Expr.levels]
  | logical op left right ihl ihr =>
    obtain ⟨hl, hr⟩ := List.forall_mem_append.1 hwhole
    exact nests_operation _ _ (ihl hl) (ihr hr)
  | binary op left right ihl ihr =>
    obtain ⟨hl, hr⟩ := List.forall_mem_append.1 hwhole
    exact nests_operation _ _ (ihl hl) (ihr hr)
  | unary op operand ih =>
    refine (nests_structureJson _ (.cons (nests_stringJson _) (.cons (ih hwhole) .nil))).congr ?_
    simp [Expr.levels]
  | conditional condition positive negative ihc ihp ihn =>
    obtain ⟨hc, hpn⟩ := List.forall_mem_append.1 hwhole
    obtain ⟨hp, hn⟩ := List.forall_mem_append.1 hpn
    refine (nests_structureJson _
      (.cons (ihc hc) (.cons (ihp hp) (.cons (ihn hn) .nil)))).congr ?_
    simp [Expr.levels]

/-! ### Fields -/

/-- A truth value is read back. -/
theorem reads_truth (b : Bool) :
    Reads bool ((Value.bool b).written Value.numberJson) True b := by
  refine ⟨fun _ rest _ => ?_, fun hp => absurd trivial hp⟩
  cases b <;> rfl

/-- A word is read back if no other word has its name. -/
theorem reads_named {all : List α} {word : α → String}
    (h : all.find? (fun b => word b = word a) = some a) :
    Reads (named levels all word) (Expr.plainJson (word a)) True a :=
  reads_plain standsFor_jsonChar (by rw [h]; rfl)

section Fields

variable {σ : Type} {get? : σ → Option α} {put : α → σ → σ} {more : List (Field σ)}
  {field : Field σ}

/-- The first field is found by its name. -/
theorem find?_first : (Field.of name get? put readA :: more).find? (fun f => f.name = name) =
    some (.of name get? put readA) :=
  List.find?_cons_of_pos (decide_eq_true rfl)

/-- A later field is found by its name if the first one has another. -/
theorem find?_later (hname : nameA ≠ name)
    (h : more.find? (fun f => f.name = name) = some field) :
    (Field.of nameA get? put readA :: more).find? (fun f => f.name = name) = some field := by
  rw [List.find?_cons_of_neg (by rw [decide_eq_true_eq]; exact hname)]
  exact h

end Fields

/-- Two fields with different names are read back. -/
theorem reads_pair (hname : nameA ≠ nameB) (hA : Reads readA textA p a)
    (hB : Reads readB textB q b) :
    Reads (pair levels nameA readA nameB readB)
      ('\x7b' :: (Expr.fieldsJson [(nameA, textA), (nameB, textB)] ++ ['\x7d']))
      (0 < levels ∧ p ∧ q) (a, b) := by
  rw [Expr.fieldsJson_eq, ← and_true q]
  refine Reads.complete (s := (some a, some b)) (reads_fields standsFor_jsonChar ?_) rfl
  exact .cons (reads_fieldByName find?_first rfl hA)
    (.cons (reads_fieldByName (find?_later hname find?_first) rfl hB) (.nil _))

/-- Three fields with different names are read back. -/
theorem reads_triple (hnames : [nameA, nameB, nameC].Nodup) (hA : Reads readA textA p a)
    (hB : Reads readB textB q b) (hC : Reads readC textC r c) :
    Reads (triple levels nameA readA nameB readB nameC readC)
      ('\x7b' :: (Expr.fieldsJson [(nameA, textA), (nameB, textB), (nameC, textC)] ++ ['\x7d']))
      (0 < levels ∧ p ∧ q ∧ r) (a, b, c) := by
  obtain ⟨⟨hAB, hAC⟩, hBC⟩ : (nameA ≠ nameB ∧ nameA ≠ nameC) ∧ nameB ≠ nameC := by
    simpa using hnames
  rw [Expr.fieldsJson_eq, ← and_true r]
  refine Reads.complete (s := (some a, some b, some c)) (reads_fields standsFor_jsonChar ?_) rfl
  exact .cons (reads_fieldByName find?_first rfl hA)
    (.cons (reads_fieldByName (find?_later hAB find?_first) rfl hB)
      (.cons (reads_fieldByName (find?_later hAC (find?_later hBC find?_first)) rfl hC) (.nil _)))

/-! ### Nodes -/

/-- What reads the expressions inside of one, `k` levels further in. -/
def within (n k : Nat) : Read Expr := if k ≤ n then expr (n - k) else tooDeep

/-- An expression is read as one of its variants. -/
theorem expr_eq (n : Nat) :
    expr n = variant n (exprVariant? (n - 1) (within n 2) (within n 3)) := by
  match n with
  | 0 | 1 | 2 | _ + 3 => rfl

/-- An expression is read back where enough levels are left around it. -/
theorem reads_within {levels : Nat} (h : ∀ n, Reads (expr n) text (levels ≤ n) e) :
    Reads (within n k) text (levels + k ≤ n) e := by
  rw [within]
  split
  · exact (h (n - k)).congr (by omega)
  · exact Reads.refused (fun _ => ⟨_, rfl⟩) (by omega)

/-- A node is read back if its content is. -/
theorem reads_node {read : Read Expr}
    (hname : exprVariant? (n - 1) (within n 2) (within n 3) name = some (.holding read))
    (hcontent : Reads read content p e) (hlevels : q ↔ 0 < n ∧ p) :
    Reads (expr n) (Expr.variantJson name content) q e := by
  rw [expr_eq, Expr.variantJson_eq]
  exact (reads_holding standsFor_jsonChar hname hcontent).congr hlevels

/-- A node with two fields is read back if both of them are. -/
theorem reads_node_pair {f : α × β → Expr}
    (hname : exprVariant? (n - 1) (within n 2) (within n 3) name =
      some (.holding (mapRead f (pair (n - 1) nameA readA nameB readB))))
    (hne : nameA ≠ nameB) (hA : Reads readA textA p a) (hB : Reads readB textB q b)
    (hlevels : r ↔ 2 ≤ n ∧ p ∧ q) (he : f (a, b) = e) :
    Reads (expr n) (Expr.structureJson name [(nameA, textA), (nameB, textB)]) r e := by
  subst he
  refine reads_node hname ((reads_pair hne hA hB).map f) (hlevels.trans ?_)
  rw [← and_assoc (a := 0 < n)]
  exact and_congr_left' (by omega)

/-- A node with three fields is read back if all of them are. -/
theorem reads_node_triple {f : α × β × γ → Expr} {s : Prop}
    (hname : exprVariant? (n - 1) (within n 2) (within n 3) name =
      some (.holding (mapRead f (triple (n - 1) nameA readA nameB readB nameC readC))))
    (hnames : [nameA, nameB, nameC].Nodup) (hA : Reads readA textA p a) (hB : Reads readB textB q b)
    (hC : Reads readC textC r c) (hlevels : s ↔ 2 ≤ n ∧ p ∧ q ∧ r)
    (he : f (a, b, c) = e) :
    Reads (expr n) (Expr.structureJson name [(nameA, textA), (nameB, textB), (nameC, textC)]) s
      e := by
  subst he
  refine reads_node hname ((reads_triple hnames hA hB hC).map f) (hlevels.trans ?_)
  rw [← and_assoc (a := 0 < n)]
  exact and_congr_left' (by omega)

/-- A list of expressions is read back if each of them is. -/
theorem reads_items (levels k n : Nat) {items : List Expr}
    (h : ∀ e ∈ items, ∀ n, Reads (expr n) e.written (e.levels ≤ n) e.unsignedZeros) :
    Reads (array levels (within n k)) ('[' :: (Expr.writtenItems items ++ [']']))
      (0 < levels ∧ ∀ e ∈ items, e.levels + k ≤ n) (Expr.unsignedZerosOfAll items) := by
  rw [Expr.writtenItems_eq, Expr.unsignedZerosOfAll_eq]
  exact reads_array fun e he => ⟨e.starts_written, reads_within (h e he)⟩

/-- A logical operator is found by its name. -/
theorem find?_logicalOp (op : LogicalOp) :
    LogicalOp.all.find? (fun o => o.treeName = op.treeName) = some op := by
  cases op <;> decide

/-- A binary operator is found by its name. -/
theorem find?_binaryOp (op : BinaryOp) :
    BinaryOp.all.find? (fun o => o.treeName = op.treeName) = some op := by
  cases op <;> decide

/-- A unary operator is found by its name. -/
theorem find?_unaryOp (op : UnaryOp) :
    UnaryOp.all.find? (fun o => o.treeName = op.treeName) = some op := by
  cases op <;> decide

/-- An expression is read back exactly if there is a level left for each of its own. -/
theorem reads_expr
    (h : ∀ v ∈ e.literals, v.KeysDistinct ∧ v.Everywhere (Value.WholeWithin (2 ^ 63))) (n : Nat) :
    Reads (expr n) e.written (e.levels ≤ n) e.unsignedZeros := by
  induction e using Expr.induct generalizing n with
  | name s =>
    have hs := reads_string standsFor_jsonChar s
    exact reads_node rfl (hs.map Expr.name) (by rw [Expr.levels, and_true]; rfl)
  | literal v =>
    obtain ⟨hkeys, hwhole⟩ := h v List.mem_cons_self
    have hv := Value.reads_written hwhole hkeys (n - 1)
    exact reads_node rfl (hv.map Expr.literal) (by rw [Expr.levels]; omega)
  | record =>
    rw [expr_eq]
    exact (reads_plain standsFor_jsonChar rfl).congr (iff_true_intro (Nat.zero_le n))
  | member object property computed iho ihp =>
    obtain ⟨ho, hp⟩ := List.forall_mem_append.1 h
    refine reads_node_triple rfl (by decide) (reads_within (iho ho)) (reads_within (ihp hp))
      (reads_truth computed) ?_ rfl
    rw [Expr.levels, and_true]
    omega
  | list items ih =>
    have hitems := reads_items (n - 1) 2 n fun e he =>
      ih e he (Expr.forall_mem_literalsOfAll.1 h e he)
    refine reads_node rfl (hitems.map Expr.list) ?_
    rw [Expr.levels, Expr.levelsOfAll_add_le, ← and_assoc]
    exact and_congr_left' (by omega)
  | call callee arguments ih =>
    have harguments := reads_items (n - 1 - 1) 3 n fun e he =>
      ih e he (Expr.forall_mem_literalsOfAll.1 h e he)
    have hcallee := reads_string standsFor_jsonChar callee
    refine reads_node_pair rfl (by decide) hcallee harguments ?_ rfl
    rw [Expr.levels, Expr.levelsOfAll_add_le, true_and, ← and_assoc]
    exact and_congr_left' (by omega)
  | logical op left right ihl ihr =>
    obtain ⟨hl, hr⟩ := List.forall_mem_append.1 h
    refine reads_node_triple rfl (by decide) (reads_named (find?_logicalOp op))
      (reads_within (ihl hl)) (reads_within (ihr hr)) ?_ rfl
    rw [Expr.levels, true_and]
    omega
  | binary op left right ihl ihr =>
    obtain ⟨hl, hr⟩ := List.forall_mem_append.1 h
    refine reads_node_triple rfl (by decide) (reads_named (find?_binaryOp op))
      (reads_within (ihl hl)) (reads_within (ihr hr)) ?_ rfl
    rw [Expr.levels, true_and]
    omega
  | unary op operand ih =>
    refine reads_node_pair rfl (by decide) (reads_named (find?_unaryOp op))
      (reads_within (ih h)) ?_ rfl
    rw [Expr.levels, true_and]
    omega
  | conditional condition positive negative ihc ihp ihn =>
    obtain ⟨hc, hpn⟩ := List.forall_mem_append.1 h
    obtain ⟨hp, hn⟩ := List.forall_mem_append.1 hpn
    refine reads_node_triple rfl (by decide) (reads_within (ihc hc)) (reads_within (ihp hp))
      (reads_within (ihn hn)) ?_ rfl
    rw [Expr.levels]
    omega

end Json

namespace Expr

/-- What happens to an expression that is stored and read. -/
structure ReadsBack (e : Expr) : Prop where
  /-- If its text nests no deeper than JSON is read, an equal expression is read. -/
  within : Json.nesting e.toJson.toList ≤ 127 → ∃ f, ofJson e.toJson = .ok f ∧ (f == e) = true
  /-- If it nests deeper, the text is refused. -/
  beyond : 127 < Json.nesting e.toJson.toList → ∃ d, ofJson e.toJson = .error d
  /-- No other expression is read. -/
  equal : ∀ f, ofJson e.toJson = .ok f → (f == e) = true

/-- An expression is read back if its literals are whole within 64 bits and their keys are distinct.
-/
theorem ReadsBack.of_literals {e : Expr}
    (h : ∀ v ∈ e.literals, v.KeysDistinct ∧ v.Everywhere (Value.WholeWithin (2 ^ 63))) :
    e.ReadsBack := by
  have hequal : (e.unsignedZeros == e) = true := unsignedZeros_beq fun v hv => (h v hv).1
  have hlevels : Json.nesting e.toJson.toList = e.levels := by
    rw [toJson, String.toList_ofList]
    exact (Json.nests_expr fun v hv => (h v hv).2).nesting_eq
  obtain ⟨hread, hrefused⟩ := (Json.reads_expr h Json.levelLimit).whole
  constructor
  case within =>
    intro hwithin
    rw [hlevels] at hwithin
    exact ⟨_, hread hwithin, hequal⟩
  case beyond =>
    intro hbeyond
    rw [hlevels] at hbeyond
    exact hrefused (Nat.not_le.2 hbeyond)
  case equal =>
    intro f hf
    by_cases hwithin : e.levels ≤ 127
    · have hsame : Except.ok f = Except.ok e.unsignedZeros := hf.symm.trans (hread hwithin)
      rw [Except.ok.inj hsame]
      exact hequal
    · obtain ⟨d, hd⟩ := hrefused hwithin
      exact absurd (hf.symm.trans hd) nofun

/-- **Stored expressions are read back as equal expressions or not at all.**  This holds of every
expression with literals in which nothing is absent and all numbers are whole and fit into 64 bits
with sign.  For an expression that was read from a text it is enough that its numbers are such. -/
theorem readsBack_of_wholeWithin :
    (∀ e : Expr,
      (∀ v ∈ e.literals, v.KeysDistinct ∧ v.Everywhere (Value.WholeWithin (2 ^ 63))) →
        e.ReadsBack) ∧
    (∀ limit text e, parse limit text = .ok e →
      (∀ x, .number x ∈ e.literals → Value.WholeWithin (2 ^ 63) (.number x)) → e.ReadsBack) := by
  refine ⟨fun e => ReadsBack.of_literals, fun limit text e he hnumbers => ?_⟩
  refine ReadsBack.of_literals fun v hv => ?_
  obtain ⟨hpresent, hsingle⟩ := literals_of_parse he v hv
  cases v with
  | absent => exact absurd rfl hpresent
  | number x => exact ⟨trivial, .single (hnumbers x hv) rfl⟩
  | null | bool | string => exact ⟨trivial, .single trivial rfl⟩
  | list items =>
    obtain rfl : items = [] := hsingle
    exact ⟨trivial, .single trivial rfl⟩
  | map fields =>
    obtain rfl : fields = [] := List.map_eq_nil_iff.1 hsingle
    exact ⟨⟨List.nodup_nil, trivial⟩, .single trivial rfl⟩

/-- Lists inside each other have two levels each. -/
theorem nesting_lists (n : Nat) :
    let e : Expr := Nat.repeat (fun e => .list [e]) n (.name "a")
    e.literals = [] ∧ Json.nesting e.toJson.toList = 2 * n + 1 := by
  intro e
  have hlists : e.literals = [] ∧ e.levels = 2 * n + 1 := by
    induction n with
    | zero => exact ⟨rfl, rfl⟩
    | succ n ih => simp [e, Nat.repeat, literals, literalsOfAll, levels, levelsOfAll, ih]; omega
  have hnests : Json.Nests e.written e.levels :=
    Json.nests_expr fun v hv => absurd (hlists.1 ▸ hv) List.not_mem_nil
  rw [toJson, String.toList_ofList, hnests.nesting_eq]
  exact hlists

/-- A list of a field and a number is read back, and 64 lists inside each other are refused. -/
theorem readsBack_of_wholeWithin_lists :
    let e : Expr := .list [.name "a", .literal (.number (Binary64.ofInt 3))]
    let deep : Expr := Nat.repeat (fun e => .list [e]) 64 (.name "a")
    parse 2 "[a, 3]" = .ok e ∧
      e.toJson = "\x7b\"Array\":[\x7b\"Identifier\":\"a\"\x7d,\x7b\"Literal\":3\x7d]\x7d" ∧
      Json.nesting e.toJson.toList = 3 ∧ (∃ f, ofJson e.toJson = .ok f ∧ (f == e) = true) ∧
      Json.nesting deep.toJson.toList = 129 ∧ ∃ d, ofJson deep.toJson = .error d := by
  intro e deep
  have hlexemes : (Source.ofText "[a, 3]").lexemes =
      ([⟨.symbol .leftBracket, 0, 1⟩, ⟨.name "a", 1, 2⟩, ⟨.symbol .comma, 2, 3⟩,
        ⟨.number (Binary64.ofInt 3), 4, 5⟩, ⟨.symbol .rightBracket, 5, 6⟩], .finished 6) := rfl
  have hparse : parse 2 "[a, 3]" = .ok e := by
    rw [parse_of_lexemes hlexemes]
    change _ = Except.ok (list [.name "a", .literal (.number (Binary64.ofInt 3))])
    -- Which number it is does not matter to the parser.
    generalize Binary64.ofInt 3 = x
    cbv
  have hwhole (x : Float) (hx : .number x ∈ e.literals) :
      Value.WholeWithin (2 ^ 63) (.number x) := by
    rw [Value.number.inj (List.mem_singleton.1 hx)]
    exact ⟨3, rfl, by decide⟩
  have hnesting : Json.nesting e.toJson.toList = 3 := by decide +kernel
  have hback := readsBack_of_wholeWithin.2 2 "[a, 3]" e hparse hwhole
  obtain ⟨hnone, hdeep⟩ : deep.literals = [] ∧ Json.nesting deep.toJson.toList = 129 :=
    nesting_lists 64
  have hrefused := readsBack_of_wholeWithin.1 deep fun v hv =>
    absurd (hnone ▸ hv) List.not_mem_nil
  exact ⟨hparse, by decide +kernel, hnesting, hback.within (by rw [hnesting]; decide), hdeep,
    hrefused.beyond (by rw [hdeep]; decide)⟩

end Expr
end RecordFilter

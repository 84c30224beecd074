/-
# Texts composed of texts

A text that is read as an expression may stand between brackets in a longer text, and is read there
as the same expression: nothing in it closes the bracket, or is joined to what stands outside
(`parse_composed`).  Neither its tokens nor its links depend on what follows the bracket, so each
way of putting texts together is a rule about texts (`IsRead`) that is made of a rule about
tokens (`Tokenizes.append`) and a rule of the grammar (`Fits`).

How much deeper the longer text has to be read is counted by `Fits`: an operand between parentheses
adds a level, the connective in front of it adds one, and the operand is a new expression.
-/

import Mathlib
import RecordFilter.Proofs.Expr.Invariant
import RecordFilter.Proofs.Expr.Tokenization

namespace RecordFilter
namespace Expr

open Grammar

/-- The tokens of a text are an expression of a level, with `spine` links open where it ends and
never more than `room` levels open. -/
def IsRead (l : Level) (cs : List Char) (e : Expr) (spine room : Nat) : Prop :=
  ∃ ts, Tokenizes cs ts ∧ Fits l ts e spine room

/-! ### Whole texts -/

/-- **What is read is what the tokens of the text are**, within the levels of the limit. -/
theorem parse_eq_ok_iff {limit : Nat} {text : String} {e : Expr} :
    parse limit text = .ok e ↔
      0 < limit ∧ ∃ k, IsRead .conditional text.toList e k (limit - 1) := by
  refine ⟨fun h => ?_, fun ⟨hlt, k, ts, ht, hf⟩ => ?_⟩
  · unfold parse at h
    split at h
    · cases h
    · next s hs =>
      obtain ⟨hl, hd, hfin⟩ := Parser.State.ofText_eq_ok hs
      obtain ⟨p, hp⟩ := Parser.finished_of_whole h hfin
      obtain ⟨hlt, k, hf⟩ := Parser.fits_of_whole h
      rw [hp] at hl
      rw [hd] at hlt hf
      exact ⟨hlt, k, _, exists_lexemes_iff.1 ⟨_, p, hl, rfl⟩, hf⟩
  · obtain ⟨ls, p, hl, rfl⟩ := exists_lexemes_iff.2 ht
    rw [parse_of_lexemes hl]
    exact Parser.whole_of_fits hf (by omega)

/-! ### Operators and names -/

/-- The symbol of a logical operator is one token, its connective. -/
theorem tokenizes_logical (op : LogicalOp) : ∃ t,
    Tokenizes op.symbol.toList [t] ∧ Connective.ofToken? t = some (.logical op) := by
  cases op <;> exact ⟨_, .token rfl (fun _ => rfl) (.finished rfl), rfl⟩

/-- The symbol of a binary operator is one token, its connective. -/
theorem tokenizes_binary (op : BinaryOp) : ∃ t,
    Tokenizes op.symbol.toList [t] ∧ Connective.ofToken? t = some (.binary op) := by
  cases op <;> exact ⟨_, .token rfl (fun _ => rfl) (.finished rfl), rfl⟩

/-- The symbol of a unary operator is one token, its prefix operator. -/
theorem tokenizes_unary (op : UnaryOp) : ∃ t,
    Tokenizes op.symbol.toList [t] ∧ UnaryOp.ofToken? t = some op := by
  cases op <;> exact ⟨_, .token rfl (fun _ => rfl) (.finished rfl), rfl⟩

/-! ### Ways to put texts together -/

namespace IsRead

variable {cs ds us os : List Char} {t : Token} {a b c e : Expr} {l : Level}
  {i j k r room : Nat}

/-- No link is open behind an operand with its members and calls. -/
theorem operand (h : IsRead .suffixed cs e k room) : IsRead .prefixed cs e 0 room :=
  let ⟨ts, ht, hf⟩ := h
  ⟨ts, ht, .tighter rfl hf⟩

/-- A text that is read on the levels of chains is read as a whole expression. -/
theorem loosen (h : IsRead l cs e k room) (hl : l.rank ≤ Level.rank .prefixed) :
    IsRead .conditional cs e k room :=
  let ⟨ts, ht, hf⟩ := h
  ⟨ts, ht, hf.loosen hl l.rank_pos⟩

/-- An expression in parentheses is the expression. -/
theorem group (h : IsRead .conditional cs e k r) (hr : r < room) :
    IsRead .suffixed ('(' :: (cs ++ [')'])) e 0 room := by
  obtain ⟨ts, ht, hf⟩ := h
  exact ⟨_, ht.inParens, .tighter rfl (.group hf hr)⟩

/-- Two operands with a connective between them. -/
theorem join {con : Connective} {node : Expr → Expr → Expr} (ha : IsRead .prefixed cs a 0 room)
    (ho : Tokenizes os [t]) (hc : Connective.ofToken? t = some con) (hn : con.node? = some node)
    (hb : IsRead .prefixed ds b 0 r) (hr : 1 + r < room) :
    IsRead .conditional (cs ++ ' ' :: (os ++ ' ' :: ds)) (node a b) 1 room := by
  obtain ⟨ts, ht, hf⟩ := ha
  obtain ⟨ts', ht', hf'⟩ := hb
  refine loosen (l := con.level) ⟨_, ht.operator ho ht', ?_⟩
    (Nat.le_trans con.rank_level_le (by decide))
  exact hf.join hc hn (Nat.le_refl _) Connective.leftPower_lt_prefixed
    (fun m hm _ => hf'.loosen (Nat.le_refl _) hm) hr

/-- A condition with its two branches. -/
theorem conditional (hc : IsRead .prefixed cs c 0 room) (ha : IsRead .prefixed ds a 0 r)
    (hb : IsRead .prefixed us b 0 r) (hr : 1 + r < room) :
    IsRead .conditional (cs ++ ' ' :: '?' :: ' ' :: (ds ++ ' ' :: ':' :: ' ' :: us))
      (.conditional c a b) 1 room := by
  obtain ⟨ts, ht, hf⟩ := hc
  obtain ⟨ts₁, ht₁, hf₁⟩ := ha
  obtain ⟨ts₂, ht₂, hf₂⟩ := hb
  refine ⟨_, ht.operator (.symbol .question) (ht₁.operator (.symbol .colon) ht₂), ?_⟩
  exact .conditional (hf.loosen (Nat.le_refl _) (by decide))
    (hf₁.loosen (Nat.le_refl _) (by decide)) (hf₂.loosen (Nat.le_refl _) (by decide)) hr

/-- An operator in front of an operand in parentheses. -/
theorem unary {op : UnaryOp} (ho : Tokenizes os [t]) (hop : UnaryOp.ofToken? t = some op)
    (h : IsRead .conditional cs e k r) (hr : r + 1 < room) :
    IsRead .prefixed (os ++ '(' :: (cs ++ [')'])) (.unary op e) 0 room := by
  obtain ⟨ts, ht, hf⟩ := (h.group (Nat.lt_succ_self r)).operand
  exact ⟨_, ho.append (Scan.ends_of_mem (by decide) _) ht, .unary hop hf hr⟩

section Items

variable (ha : IsRead .conditional cs a i r) (hb : IsRead .conditional ds b j r)

include ha hb

/-- A list of two items. -/
theorem list (hr : r < room) :
    IsRead .suffixed ('[' :: (cs ++ ',' :: ' ' :: ds ++ [']'])) (.list [a, b]) 0 room := by
  obtain ⟨ts₁, ht₁, hf₁⟩ := ha
  obtain ⟨ts₂, ht₂, hf₂⟩ := hb
  refine ⟨_, (ht₁.comma ht₂).inBrackets, .tighter rfl ?_⟩
  exact .list [(ts₁, a, i), (ts₂, b, j)]
    (List.forall_mem_cons.2 ⟨hf₁, List.forall_mem_singleton.2 hf₂⟩) fun _ => hr

/-- A call with two arguments. -/
theorem call {f : String} (hf : IsName f) (hr : r + 1 < room) :
    IsRead .suffixed (f.toList ++ '(' :: (cs ++ ',' :: ' ' :: ds ++ [')'])) (.call f [a, b]) 1
      room := by
  obtain ⟨ts₁, ht₁, hf₁⟩ := ha
  obtain ⟨ts₂, ht₂, hf₂⟩ := hb
  refine ⟨_, (Tokenizes.name hf).append (Scan.ends_of_mem (by decide) _)
    (ht₁.comma ht₂).inParens, ?_⟩
  have hn : Fits .suffixed [.name f] (.name f) 0 room := .tighter rfl (.atom rfl)
  exact .call hn rfl [(ts₁, a, i), (ts₂, b, j)]
    (List.forall_mem_cons.2 ⟨hf₁, List.forall_mem_singleton.2 hf₂⟩) (by omega)
    fun _ => by omega

end Items

/-- A member by the value of an expression. -/
theorem index (ha : IsRead .suffixed cs a k room) (hb : IsRead .conditional ds b j r)
    (hr : k + 1 + r < room) :
    IsRead .suffixed (cs ++ '[' :: (ds ++ [']'])) (.member a b true) (k + 1) room := by
  obtain ⟨ts₁, ht₁, hf₁⟩ := ha
  obtain ⟨ts₂, ht₂, hf₂⟩ := hb
  exact ⟨_, ht₁.append (Scan.ends_of_mem (by decide) _) ht₂.inBrackets, .index hf₁ hf₂ hr⟩

end IsRead

/-- A text that is read within the room of a limit parses. -/
theorem parse_of_isRead {k room : Nat} {text : String} {cs : List Char} {e : Expr}
    (h : IsRead .conditional cs e k room) (ht : text.toList = cs) :
    parse (room + 1) text = .ok e := by
  subst ht
  exact parse_eq_ok_iff.2 ⟨Nat.succ_pos _, k, h⟩

/-- **Texts that are read can be put together.**  If three texts are read as expressions within some
limit, then with three levels more each way to put them together is read as the expression that is
put together of theirs: parentheses, every operator between two operands or in front of one, the
conditional, lists, calls of every name, and members. -/
theorem parse_composed {limit more : Nat} {a b c : String} {A B C : Expr}
    (ha : parse limit a = .ok A) (hb : parse limit b = .ok B) (hc : parse limit c = .ok C)
    (hm : limit + 3 ≤ more) :
    parse more ("(" ++ a ++ ")") = .ok A ∧
      (∀ op : LogicalOp, parse more ("(" ++ a ++ ") " ++ op.symbol ++ " (" ++ b ++ ")") =
        .ok (.logical op A B)) ∧
      (∀ op : BinaryOp, parse more ("(" ++ a ++ ") " ++ op.symbol ++ " (" ++ b ++ ")") =
        .ok (.binary op A B)) ∧
      parse more ("(" ++ a ++ ") ? (" ++ b ++ ") : (" ++ c ++ ")") = .ok (.conditional A B C) ∧
      (∀ op : UnaryOp, parse more (op.symbol ++ "(" ++ a ++ ")") = .ok (.unary op A)) ∧
      parse more ("[" ++ a ++ ", " ++ b ++ "]") = .ok (.list [A, B]) ∧
      (∀ f, IsName f → parse more (f ++ "(" ++ a ++ ", " ++ b ++ ")") = .ok (.call f [A, B])) ∧
      parse more ("(" ++ a ++ ")[" ++ b ++ "]") = .ok (.member A B true) := by
  obtain ⟨hpos, i, ha⟩ := parse_eq_ok_iff.1 ha
  obtain ⟨-, j, hb⟩ := parse_eq_ok_iff.1 hb
  obtain ⟨-, k, hc⟩ := parse_eq_ok_iff.1 hc
  obtain ⟨room, rfl⟩ : ∃ room, more = room + 1 := ⟨more - 1, by omega⟩
  -- An operand in parentheses in front, and operands behind a connective, one expression deeper.
  have first : IsRead .suffixed _ A 0 room := ha.group (by omega)
  have second : IsRead .prefixed _ B 0 limit := (hb.group (by omega)).operand
  have third : IsRead .prefixed _ C 0 limit := (hc.group (by omega)).operand
  refine ⟨?_, fun op => ?_, fun op => ?_, ?_, fun op => ?_, ?_, fun f hf => ?_, ?_⟩
  · exact parse_of_isRead (first.operand.loosen (by decide)) (by simp)
  · obtain ⟨t, ho, hop⟩ := tokenizes_logical op
    exact parse_of_isRead (first.operand.join ho hop rfl second (by omega)) (by simp)
  · obtain ⟨t, ho, hop⟩ := tokenizes_binary op
    exact parse_of_isRead (first.operand.join ho hop rfl second (by omega)) (by simp)
  · exact parse_of_isRead (first.operand.conditional second third (by omega)) (by simp)
  · obtain ⟨t, ho, hop⟩ := tokenizes_unary op
    exact parse_of_isRead ((ha.unary ho hop (by omega)).loosen (by decide)) (by simp)
  · exact parse_of_isRead ((ha.list hb (by omega)).operand.loosen (by decide)) (by simp)
  · exact parse_of_isRead ((ha.call hb hf (by omega)).operand.loosen (by decide)) (by simp)
  · exact parse_of_isRead ((first.index hb (by omega)).operand.loosen (by decide)) (by simp)

/-- A parenthesis inside quotes closes nothing, and a disjunction in parentheses is the base of a
power. -/
theorem parse_composed_quoted :
    parse 3 "x || y" = .ok (.logical .or (.name "x") (.name "y")) ∧
      parse 3 "')'" = .ok (.literal (.string ")")) ∧ parse 3 "z" = .ok (.name "z") ∧ IsName "f" ∧
      parse 6 "(x || y) ** (')')" =
        .ok (.binary .power (.logical .or (.name "x") (.name "y")) (.literal (.string ")"))) ∧
      parse 6 "f(x || y, ')')" =
        .ok (.call "f" [.logical .or (.name "x") (.name "y"), .literal (.string ")")]) := by
  have ha : parse 3 "x || y" = .ok (.logical .or (.name "x") (.name "y")) := by cbv
  have hb : parse 3 "')'" = .ok (.literal (.string ")")) := by cbv
  have hc : parse 3 "z" = .ok (.name "z") := by cbv
  have hf : IsName "f" :=
    ⟨⟨'f', [], rfl, rfl⟩, List.forall_mem_singleton.2 rfl, fun w => by cases w <;> decide⟩
  obtain ⟨-, -, hop, -, -, -, hcall, -⟩ := parse_composed ha hb hc (Nat.le_refl (3 + 3))
  exact ⟨ha, hb, hc, hf, hop .power, hcall "f" hf⟩

end Expr
end RecordFilter

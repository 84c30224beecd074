/-
# Both forms of JSON are read alike

The JSON of a value in one line and the one with line breaks differ in blanks alone, so they are
read as the same value (`Value.ofJson_toIndentedJson`).  That value need not be the one that was
written: numbers are read again as some number only (`Json.Numeral.exists_numberJson`), and what
JSON has no form for is null.  So it is a third value that both texts are related to, found from
the inside out (`exists_isReadAs`).

Reading a text never fails for its depth if the value was itself read (`depth_le_of_ofJson`).
-/

import Mathlib
import RecordFilter.Proofs.Json.Number
import RecordFilter.Proofs.Json.Value

namespace RecordFilter
namespace Json

variable {α σ : Type} {cs rest : List Char} {limit levels level : Nat} {isFirst : Bool} {v : Value}

/-! ### Numbers -/

/-- What is not finite is written as `null`. -/
theorem numberJson_infinite {x : Float} (hx : x.isFinite = false) :
    Value.numberJson x = ['n', 'u', 'l', 'l'] := by
  have hwhole : Binary64.isWhole x = false := by
    change (Binary64.unpack x).isFinite = false at hx
    rw [Binary64.isWhole]
    generalize Binary64.unpack x = u at hx
    cases u with
    | notANumber | infinity s => rfl
    | zero s | finite s m e hm => cases hx
  have hnone : Value.jsonInteger? x = none := by
    rw [Value.jsonInteger?, Binary64.whole?, hwhole]
    rfl
  rw [Value.numberJson, hnone]
  dsimp only
  rw [Value.pointedText, hx]
  rfl

/-- What is written for a number is read as some value. -/
theorem exists_isReadAs_number (x : Float) :
    ∃ w, IsReadAs (Value.numberJson x) (.number x) w := by
  cases hx : x.isFinite with
  | true =>
    obtain ⟨n, hproper, hwritten, hvalue⟩ := Numeral.exists_numberJson hx
    obtain ⟨y, hy⟩ := Option.isSome_iff_exists.1 hvalue
    exact ⟨.number y, hwritten ▸ isReadAs_number hproper hy x⟩
  | false => exact ⟨.null, numberJson_infinite hx ▸ isReadAs_null rfl⟩

/-! ### Line breaks -/

/-- A line break and its indentation are blanks. -/
theorem isBlanks_lineBreak (level : Nat) : IsBlanks (Value.lineBreak level) := by
  refine List.forall_mem_cons.2 ⟨rfl, fun c hc => ?_⟩
  rw [List.eq_of_mem_replicate hc]
  rfl

/-- A blank is blanks. -/
theorem isBlanks_singleton {c : Char} (h : isBlank c = true) : IsBlanks [c] :=
  List.forall_mem_singleton.2 h

/-- A list is written with a line for each of its items. -/
theorem indented_list {items : List Value} (h : items ≠ []) (level : Nat) :
    (Value.list items).indented level =
      '[' :: (commas (items.map fun v => Value.lineBreak (level + 1) ++ v.indented (level + 1)) ++
        (Value.lineBreak level ++ [']'])) := by
  have hitems := eq_commas (Value.indentedItems (level + 1))
    (fun v => Value.lineBreak (level + 1) ++ v.indented (level + 1)) rfl (fun _ => rfl)
    (fun _ _ _ => rfl) items
  rw [← hitems, ← List.append_assoc]
  rw [Value.indented]
  exact h

/-- A map is written with a line for each of its fields. -/
theorem indented_map {fields : List (String × Value)} (h : fields ≠ []) (level : Nat) :
    (Value.map fields).indented level =
      '\x7b' :: (commas ((fields.map fun f => (f.1, [' '] ++ f.2.indented (level + 1))).map fun e =>
        Value.lineBreak (level + 1) ++ entryText Text.jsonChar e) ++
        (Value.lineBreak level ++ ['\x7d'])) := by
  have hfields := eq_commas (Value.indentedFields (level + 1))
    (fun f => Value.lineBreak (level + 1) ++
      entryText Text.jsonChar (f.1, [' '] ++ f.2.indented (level + 1)))
    rfl (fun _ => List.append_assoc _ _ _)
    (fun _ _ _ => by simp [Value.indentedFields, entryText, Value.stringJson]) fields
  simp only [List.map_map, Function.comp_def]
  rw [← hfields, ← List.append_assoc]
  rw [Value.indented]
  exact h

/-- **Both forms are read as one value**, at whatever level the second one starts. -/
theorem exists_isReadAs (v : Value) :
    ∃ w, IsReadAs (v.written Value.numberJson) v w ∧ ∀ level, IsReadAs (v.indented level) v w := by
  have hwrites := writes_written Value.numberJson
  induction v using Value.induct with
  | null => exact ⟨.null, isReadAs_null rfl, fun _ => isReadAs_null rfl⟩
  | absent => exact ⟨.null, isReadAs_null rfl, fun _ => isReadAs_null rfl⟩
  | bool b =>
    have hbool := isReadAs_bool b
    rw [← hwrites.bool] at hbool
    exact ⟨.bool b, hbool, fun _ => hbool⟩
  | number x =>
    obtain ⟨w, hw⟩ := exists_isReadAs_number x
    exact ⟨w, hw, fun _ => hw⟩
  | string s =>
    have hstring := isReadAs_string standsFor_jsonChar s
    exact ⟨.string s, hstring, fun _ => hstring⟩
  | list items ih =>
    choose! read hwritten hindented using ih
    have hitems : IsReadAs ((Value.list items).written Value.numberJson) (.list items)
        (.list (items.map read)) := by
      rw [hwrites.list]
      exact isReadAs_list isBlanks_nil isBlanks_nil hwritten
    refine ⟨_, hitems, fun level => ?_⟩
    rcases eq_or_ne items [] with rfl | hsome
    · exact hitems
    · rw [indented_list hsome]
      exact isReadAs_list (isBlanks_lineBreak _) (isBlanks_lineBreak _) fun v hv =>
        hindented v hv (level + 1)
  | map fields ih =>
    choose! read hwritten hindented using ih
    have hfields : IsReadAs ((Value.map fields).written Value.numberJson) (.map fields)
        (.map (fields.foldl (fun all f => Value.putField f.1 (read f) all) [])) := by
      rw [hwrites.map]
      exact isReadAs_map isBlanks_nil isBlanks_nil isBlanks_nil standsFor_jsonChar read hwritten
    refine ⟨_, hfields, fun level => ?_⟩
    rcases eq_or_ne fields [] with rfl | hsome
    · exact hfields
    · rw [indented_map hsome]
      exact isReadAs_map (isBlanks_lineBreak _) (isBlanks_lineBreak _) (isBlanks_singleton rfl)
        standsFor_jsonChar read fun f hf => hindented f hf (level + 1)

/-! ### Levels -/

/-- What holds of every element that is read holds of the elements of an array. -/
theorem forall_mem_elementsFrom {element : Read α} {p : α → Prop} {items : List α}
    (h : ∀ cs a rest, element cs = .ok (a, rest) → p a)
    (hread : elementsFrom element limit isFirst cs = .ok (items, rest)) : ∀ a ∈ items, p a := by
  induction limit generalizing isFirst cs items rest with
  | zero => cases hread
  | succ limit ih =>
    obtain ⟨⟨isMore, cs⟩, -, hread⟩ := bind_eq_ok hread
    cases isMore with
    | false =>
      obtain ⟨rfl, -⟩ := Prod.mk.inj (Except.ok.inj hread)
      exact fun _ h => absurd h List.not_mem_nil
    | true =>
      obtain ⟨⟨a, cs⟩, ha, hread⟩ := bind_eq_ok hread
      obtain ⟨⟨more, cs⟩, hmore, hread⟩ := bind_eq_ok hread
      obtain ⟨rfl, -⟩ := Prod.mk.inj (Except.ok.inj hread)
      exact List.forall_mem_cons.2 ⟨h _ _ _ ha, ih hmore⟩

/-- What each entry keeps is kept by the entries of an object. -/
theorem entriesFrom_keeps {entry : σ → String → Read σ} {p : σ → Prop} {s t : σ}
    (h : ∀ s key cs t rest, p s → entry s key cs = .ok (t, rest) → p t) (hs : p s)
    (hread : entriesFrom entry limit isFirst s cs = .ok (t, rest)) : p t := by
  induction limit generalizing isFirst cs s with
  | zero => cases hread
  | succ limit ih =>
    obtain ⟨⟨isMore, cs⟩, -, hread⟩ := bind_eq_ok hread
    cases isMore with
    | false =>
      obtain ⟨rfl, -⟩ := Prod.mk.inj (Except.ok.inj hread)
      exact hs
    | true =>
      obtain ⟨⟨key, cs⟩, -, hread⟩ := bind_eq_ok hread
      obtain ⟨⟨s, cs⟩, hentry, hread⟩ := bind_eq_ok hread
      exact ih (h _ _ _ _ _ hs hentry) hread

/-- A value that is read without its inside has no levels. -/
theorem depth_single (h : single cs = .ok (v, rest)) : v.depth = 0 := by
  unfold single at h
  split at h
  · cases h
  iterate 4
    · obtain ⟨_, -, h⟩ := map_eq_ok h
      exact (Prod.mk.inj h).1 ▸ rfl
  · split at h
    · obtain ⟨_, -, h⟩ := map_eq_ok h
      exact (Prod.mk.inj h).1 ▸ rfl
    · cases h

/-- A field that is put is the new one or was there. -/
theorem mem_putField {name : String} {f : String × Value} {fields : List (String × Value)}
    (h : f ∈ Value.putField name v fields) : f.2 = v ∨ f ∈ fields := by
  induction fields with
  | nil => exact .inl (List.mem_singleton.1 h ▸ rfl)
  | cons g fields ih =>
    rw [Value.putField] at h
    split at h
    · rcases List.mem_cons.1 h with rfl | hmem
      · exact .inl rfl
      · exact .inr (List.mem_cons_of_mem _ hmem)
    · rcases List.mem_cons.1 h with rfl | hmem
      · exact .inr List.mem_cons_self
      · exact (ih hmem).imp_right (List.mem_cons_of_mem _)

/-- A value that is read has no more levels than are read. -/
theorem depth_le_of_value (h : value levels cs = .ok (v, rest)) : v.depth ≤ levels := by
  induction levels generalizing cs v rest with
  | zero =>
    rw [value] at h
    split at h
    · cases h
    · cases h
    · exact Nat.le_of_eq (depth_single h)
  | succ levels ih =>
    rw [value] at h
    split at h
    · obtain ⟨⟨items, _⟩, hitems, h⟩ := map_eq_ok h
      obtain ⟨rfl, -⟩ := Prod.mk.inj h
      rw [Value.depth, Nat.succ_le_succ_iff, Value.depthOfItems_le]
      exact forall_mem_elementsFrom (fun _ _ _ => ih) hitems
    · obtain ⟨⟨fields, _⟩, hfields, h⟩ := map_eq_ok h
      obtain ⟨rfl, -⟩ := Prod.mk.inj h
      rw [Value.depth, Nat.succ_le_succ_iff, Value.depthOfFields_le]
      refine entriesFrom_keeps (p := fun fields => ∀ f ∈ fields, f.2.depth ≤ levels)
        (fun fields key cs t rest hfields hentry => ?_) (fun _ h => absurd h List.not_mem_nil)
        hfields
      rw [valueEntry] at hentry
      split at hentry
      · next v cs hv =>
        obtain ⟨cs, -, hv⟩ := bind_eq_ok hv
        obtain ⟨rfl, -⟩ := Prod.mk.inj (Except.ok.inj hentry)
        intro f hf
        rcases mem_putField hf with hnew | hold
        · exact hnew ▸ ih hv
        · exact hfields f hold
      · cases hentry
    · rw [depth_single h]
      exact Nat.zero_le _

end Json

namespace Value

variable {v : Value} {text : String}

/-- No value that is read is deeper than JSON may nest. -/
theorem depth_le_of_ofJson (h : ofJson text = .ok v) : v.depth ≤ 127 := by
  rw [ofJson, Json.whole] at h
  split at h
  · cases h
  · next hread =>
    split at h
    · cases h
      exact Json.depth_le_of_value hread
    · cases h

/-- **The JSON of a value is read alike in one line and with line breaks**, also with blanks behind
it, if the value nests no deeper than JSON is read. -/
theorem ofJson_toIndentedJson (hdepth : v.depth ≤ 127) {close : List Char}
    (hclose : Json.IsBlanks close) :
    ∃ w, ofJson (v.toJson ++ .ofList close) = .ok w ∧
      ofJson (v.toIndentedJson ++ .ofList close) = .ok w := by
  obtain ⟨w, hwritten, hindented⟩ := Json.exists_isReadAs v
  refine ⟨w, ?_, ?_⟩
  · rw [toJson, ← String.ofList_append]
    exact ((hwritten.reads _).whole_append hclose).1 hdepth
  · rw [toIndentedJson, ← String.ofList_append]
    exact (((hindented 0).reads _).whole_append hclose).1 hdepth

end Value
end RecordFilter

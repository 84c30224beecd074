/-
# Search patterns as languages

A search pattern without flags denotes a language: it leads from one place of a subject to another
if and only if a text of the language stands between the two (`Denotes`).  The rules below give the
language of a pattern from those of its parts.

A point stands for any character but a line feed, so what a pattern denotes may depend on which
subjects are admitted; they are a parameter `S` of everything here.
-/

import Mathlib
import RecordFilter.Proofs.Pattern.Search
import RecordFilter.Proofs.Unicode.CodeSet

namespace RecordFilter
namespace Pattern

open Regex

/-! ### Texts in a subject -/

/-- Whether a text stands in a subject from the place `i` to the place `j`. -/
def Spans (subject : List Char) (i : Nat) (text : List Char) (j : Nat) : Prop :=
  text <+: subject.drop i ∧ j = i + text.length

/-- Whether a text of a language stands in a subject from the place `i` to the place `j`. -/
def Covers (subject : List Char) (L : List Char → Prop) (i j : Nat) : Prop :=
  ∃ text, Spans subject i text j ∧ L text

variable {subject text text' : List Char} {c : Char} {i j : Nat} {L M : List Char → Prop}

/-- An empty text stands between a place and itself. -/
theorem spans_nil : Spans subject i [] j ↔ j = i := by
  simp [Spans]

/-- A text stands where its first character does and the others behind it. -/
theorem spans_cons :
    Spans subject i (c :: text) j ↔ subject[i]? = some c ∧ Spans subject (i + 1) text j := by
  rw [Spans, Spans, List.length_cons]
  cases hi : subject[i]? with
  | none =>
    rw [List.drop_eq_nil_of_le (List.getElem?_eq_none_iff.1 hi)]
    simp
  | some d =>
    obtain ⟨hlt, rfl⟩ := List.getElem?_eq_some_iff.1 hi
    rw [List.drop_eq_getElem_cons hlt, List.cons_prefix_cons, Option.some.injEq, eq_comm (a := c),
      and_assoc, Nat.add_right_comm, Nat.add_assoc]

/-- A text stands where its front does and the rest behind it. -/
theorem spans_append :
    Spans subject i (text ++ text') j ↔ ∃ k, Spans subject i text k ∧ Spans subject k text' j := by
  induction text generalizing i with
  | nil => simp only [List.nil_append, spans_nil, exists_eq_left]
  | cons c text ih => simp only [List.cons_append, spans_cons, ih, and_assoc, exists_and_left]

/-- A text that stands in a subject has only characters of it. -/
theorem Spans.mem (h : Spans subject i text j) (hc : c ∈ text) : c ∈ subject :=
  List.mem_of_mem_drop (h.1.subset hc)

/-- Languages that have the same texts of characters of a subject stand at the same places. -/
theorem covers_congr (h : ∀ text, (∀ c ∈ text, c ∈ subject) → (L text ↔ M text)) :
    Covers subject L i j ↔ Covers subject M i j :=
  exists_congr fun text => and_congr_right fun hspan => h text fun _ => hspan.mem

/-- From the first place of a subject to its last one stands the subject alone. -/
theorem covers_whole : Covers subject L 0 subject.length ↔ L subject := by
  constructor
  · rintro ⟨text, ⟨hfront, hlen⟩, h⟩
    rw [List.drop_zero] at hfront
    rw [Nat.zero_add] at hlen
    exact hfront.eq_of_length hlen.symm ▸ h
  · exact fun h => ⟨subject, ⟨List.prefix_rfl, (Nat.zero_add _).symm⟩, h⟩

/-- The language of the empty text stands between a place and itself. -/
theorem covers_nil : Covers subject (· = []) i j ↔ j = i := by
  simp only [Covers, exists_eq_right, spans_nil]

/-- A language of single characters stands where the next character is one of them. -/
theorem covers_char {P : Char → Prop} :
    Covers subject (fun text => ∃ c, P c ∧ text = [c]) i j ↔
      j = i + 1 ∧ ∃ c, subject[i]? = some c ∧ P c := by
  constructor
  · rintro ⟨_, h, c, hc, rfl⟩
    obtain ⟨hi, hj⟩ := spans_cons.1 h
    exact ⟨spans_nil.1 hj, c, hi, hc⟩
  · rintro ⟨rfl, c, hi, hc⟩
    exact ⟨[c], spans_cons.2 ⟨hi, spans_nil.2 rfl⟩, c, hc, rfl⟩

/-- A language of texts in two parts stands where the one part does and the other behind it. -/
theorem covers_append :
    Covers subject (fun text => ∃ a b, text = a ++ b ∧ L a ∧ M b) i j ↔
      ∃ k, Covers subject L i k ∧ Covers subject M k j := by
  constructor
  · rintro ⟨_, h, a, b, rfl, ha, hb⟩
    obtain ⟨k, hik, hkj⟩ := spans_append.1 h
    exact ⟨k, ⟨a, hik, ha⟩, b, hkj, hb⟩
  · rintro ⟨k, ⟨a, hik, ha⟩, b, hkj, hb⟩
    exact ⟨a ++ b, spans_append.2 ⟨k, hik, hkj⟩, a, b, rfl, ha, hb⟩

/-- A language of two stands where one of them does. -/
theorem covers_or :
    Covers subject (fun text => L text ∨ M text) i j ↔
      Covers subject L i j ∨ Covers subject M i j := by
  simp only [Covers, and_or_left, exists_or]

/-- Rounds over single characters are a text of as many characters. -/
theorem iterated_covers_char {P : Char → Prop} (n : Nat) :
    Iterated (Covers subject fun text => ∃ c, P c ∧ text = [c]) n i j ↔
      ∃ text, Spans subject i text j ∧ text.length = n ∧ ∀ c ∈ text, P c := by
  induction n generalizing i with
  | zero =>
    rw [Iterated, ← spans_nil]
    constructor
    · exact fun h => ⟨[], h, rfl, List.forall_mem_nil _⟩
    · rintro ⟨text, h, hlen, -⟩
      exact List.length_eq_zero_iff.1 hlen ▸ h
  | succ n ih =>
    simp only [Iterated, covers_char, ih]
    constructor
    · rintro ⟨_, ⟨rfl, c, hi, hc⟩, text, h, rfl, htext⟩
      exact ⟨c :: text, spans_cons.2 ⟨hi, h⟩, rfl, List.forall_mem_cons.2 ⟨hc, htext⟩⟩
    · rintro ⟨text, h, hlen, htext⟩
      obtain ⟨c, text, rfl⟩ := List.exists_cons_of_length_eq_add_one hlen
      obtain ⟨hi, h⟩ := spans_cons.1 h
      obtain ⟨hc, htext⟩ := List.forall_mem_cons.1 htext
      exact ⟨i + 1, ⟨rfl, c, hi, hc⟩, text, h, Nat.succ.inj hlen, htext⟩

/-! ### What patterns denote -/

/-- Whether a pattern has a meaning and leads, in the subjects of a kind, where a language does. -/
def Denotes (S : List Char → Prop) (p : Syntax) (L : List Char → Prop) : Prop :=
  ∃ r, read? .initial p = some (r, .initial) ∧
    ∀ subject, S subject → ∀ i j, r.Leads subject i j ↔ Covers subject L i j

/-- Whether patterns one after the other lead where a language does. -/
def DenoteInTurn (S : List Char → Prop) (ps : List Syntax) (L : List Char → Prop) : Prop :=
  ∃ rs, readAll? .initial ps = some (rs, .initial) ∧
    ∀ subject, S subject → ∀ i j, LeadsInTurn subject rs i j ↔ Covers subject L i j

/-- Whether one of several patterns leads where a language does. -/
def DenoteByAny (S : List Char → Prop) (ps : List Syntax) (L : List Char → Prop) : Prop :=
  ∃ rs, readAll? .initial ps = some (rs, .initial) ∧
    ∀ subject, S subject → ∀ i j, LeadsByAny subject rs i j ↔ Covers subject L i j

variable {S : List Char → Prop} {p : Syntax} {ps : List Syntax}

/-- A pattern denotes every language with the same texts of the subjects. -/
theorem Denotes.congr (h : Denotes S p L) (hLM : ∀ subject, S subject →
    ∀ text, (∀ c ∈ text, c ∈ subject) → (L text ↔ M text)) : Denotes S p M := by
  obtain ⟨r, hread, hlead⟩ := h
  exact ⟨r, hread, fun subject hs i j =>
    (hlead subject hs i j).trans (covers_congr (hLM subject hs))⟩

/-- Patterns in turn denote every language with the same texts. -/
theorem DenoteInTurn.congr (h : DenoteInTurn S ps L) (hLM : ∀ text, L text ↔ M text) :
    DenoteInTurn S ps M := by
  obtain ⟨rs, hread, hlead⟩ := h
  exact ⟨rs, hread, fun subject hs i j =>
    (hlead subject hs i j).trans (covers_congr fun text _ => hLM text)⟩

/-- Alternatives denote every language with the same texts. -/
theorem DenoteByAny.congr (h : DenoteByAny S ps L) (hLM : ∀ text, L text ↔ M text) :
    DenoteByAny S ps M := by
  obtain ⟨rs, hread, hlead⟩ := h
  exact ⟨rs, hread, fun subject hs i j =>
    (hlead subject hs i j).trans (covers_congr fun text _ => hLM text)⟩

/-- No patterns in turn denote the empty text. -/
theorem denoteInTurn_nil : DenoteInTurn S [] (· = []) :=
  ⟨[], rfl, fun _ _ _ _ => covers_nil.symm⟩

/-- Patterns one after the other denote texts one after the other. -/
theorem Denotes.cons (h : Denotes S p L) (hs : DenoteInTurn S ps M) :
    DenoteInTurn S (p :: ps) fun text => ∃ a b, text = a ++ b ∧ L a ∧ M b := by
  obtain ⟨r, hread, hlead⟩ := h
  obtain ⟨rs, hreads, hleads⟩ := hs
  refine ⟨r :: rs, by rw [readAll?, hread]; simp only [hreads], fun subject hs i j => ?_⟩
  simp only [LeadsInTurn, hlead subject hs, hleads subject hs, covers_append]

/-- No alternatives denote no text. -/
theorem denoteByAny_nil : DenoteByAny S [] fun _ => False :=
  ⟨[], rfl, fun _ _ _ _ => by simp [LeadsByAny, Covers]⟩

/-- A choice of patterns denotes the texts of each. -/
theorem Denotes.or (h : Denotes S p L) (hs : DenoteByAny S ps M) :
    DenoteByAny S (p :: ps) fun text => L text ∨ M text := by
  obtain ⟨r, hread, hlead⟩ := h
  obtain ⟨rs, hreads, hleads⟩ := hs
  refine ⟨r :: rs, by rw [readAll?, hread]; simp only [hreads], fun subject hs i j => ?_⟩
  simp only [LeadsByAny, hlead subject hs, hleads subject hs, covers_or]

/-- Patterns behind each other have their meanings in turn. -/
theorem readAll?_append {flags flags' flags'' : Flags} {ps qs : List Syntax} {rs rs' : List Regex}
    (h : readAll? flags ps = some (rs, flags')) (h' : readAll? flags' qs = some (rs', flags'')) :
    readAll? flags (ps ++ qs) = some (rs ++ rs', flags'') := by
  induction ps generalizing flags rs with
  | nil =>
    cases h
    exact h'
  | cons p ps ih =>
    rw [readAll?] at h
    split at h
    · next r after hp =>
      split at h
      · next more last hps =>
        cases h
        rw [List.cons_append, readAll?, hp]
        simp only [ih hps]
        rfl
      · cases h
    · cases h

/-- Patterns behind each other lead over a place between them. -/
theorem leadsInTurn_append {subject : List Char} {rs rs' : List Regex} {i j : Nat} :
    LeadsInTurn subject (rs ++ rs') i j ↔
      ∃ k, LeadsInTurn subject rs i k ∧ LeadsInTurn subject rs' k j := by
  induction rs generalizing i with
  | nil => simp [LeadsInTurn]
  | cons r rs ih =>
    simp only [List.cons_append, LeadsInTurn, ih]
    constructor
    · rintro ⟨l, hl, k, hk, h⟩
      exact ⟨k, ⟨l, hl, hk⟩, h⟩
    · rintro ⟨k, ⟨l, hl, hk⟩, h⟩
      exact ⟨l, hl, k, hk, h⟩

/-- What a single pattern in a list is read as. -/
theorem read?_of_singleton {rs : List Regex} (h : readAll? .initial [p] = some (rs, .initial)) :
    ∃ r, rs = [r] ∧ read? .initial p = some (r, .initial) := by
  rw [readAll?] at h
  cases hp : read? .initial p with
  | none => simp [hp] at h
  | some result =>
    obtain ⟨r, flags⟩ := result
    simp only [hp, readAll?, Option.some.injEq, Prod.mk.injEq] at h
    exact ⟨r, h.1.symm, by rw [h.2]⟩

/-- Patterns one after the other, as one pattern. -/
theorem read?_ofItems {rs : List Regex} (h : readAll? .initial ps = some (rs, .initial)) :
    ∃ r, read? .initial (.ofItems ps) = some (r, .initial) ∧
      ∀ subject i j, r.Leads subject i j ↔ LeadsInTurn subject rs i j := by
  cases ps with
  | nil =>
    cases h
    exact ⟨.empty, rfl, fun _ _ _ => Iff.rfl⟩
  | cons p ps =>
    cases ps with
    | nil =>
      obtain ⟨r, rfl, hp⟩ := read?_of_singleton h
      refine ⟨r, hp, fun subject i j => ?_⟩
      simp only [LeadsInTurn, exists_eq_right']
    | cons q ps =>
      refine ⟨.sequence rs, ?_, fun _ _ _ => Iff.rfl⟩
      rw [Syntax.ofItems, read?, h]
      · simp
      · simp

/-- A choice of patterns, as one pattern. -/
theorem read?_ofBranches {rs : List Regex} (h : readAll? .initial ps = some (rs, .initial))
    (hps : ps ≠ []) : ∃ r, read? .initial (.ofBranches ps) = some (r, .initial) ∧
      ∀ subject i j, r.Leads subject i j ↔ LeadsByAny subject rs i j := by
  cases ps with
  | nil => exact absurd rfl hps
  | cons p ps =>
    cases ps with
    | nil =>
      obtain ⟨r, rfl, hp⟩ := read?_of_singleton h
      refine ⟨r, hp, fun subject i j => ?_⟩
      simp only [LeadsByAny, or_false]
    | cons q ps =>
      refine ⟨.choice rs, ?_, fun _ _ _ => Iff.rfl⟩
      rw [Syntax.ofBranches, read?, h]
      · simp
      · simp

/-- A sequence denotes what its items do in turn. -/
theorem DenoteInTurn.ofItems (h : DenoteInTurn S ps L) : Denotes S (.ofItems ps) L := by
  obtain ⟨rs, hreads, hleads⟩ := h
  obtain ⟨r, hread, hlead⟩ := read?_ofItems hreads
  exact ⟨r, hread, fun subject hs i j => (hlead subject i j).trans (hleads subject hs i j)⟩

/-- A choice denotes what one of its branches does. -/
theorem DenoteByAny.ofBranches (h : DenoteByAny S ps L) (hps : ps ≠ []) :
    Denotes S (.ofBranches ps) L := by
  obtain ⟨rs, hreads, hleads⟩ := h
  obtain ⟨r, hread, hlead⟩ := read?_ofBranches hreads hps
  exact ⟨r, hread, fun subject hs i j => (hlead subject i j).trans (hleads subject hs i j)⟩

/-- A group without a name, as the pattern in it. -/
theorem read?_group {r : Regex} (h : read? .initial p = some (r, .initial)) :
    read? .initial (.group false [] p) = some (r, .initial) := by
  have hafter : Flags.initial.after [] = Flags.initial := rfl
  simp only [read?, hafter, h, Bool.false_eq_true, if_false]

/-- A group denotes what its inside does. -/
theorem Denotes.group (h : Denotes S p L) : Denotes S (.group false [] p) L := by
  obtain ⟨r, hread, hlead⟩ := h
  exact ⟨r, read?_group hread, hlead⟩

/-- A pattern that may be left out. -/
theorem Denotes.optional (h : Denotes S p L) :
    Denotes S (.repetition p 0 (some 1)) fun text => text = [] ∨ L text := by
  obtain ⟨r, hread, hlead⟩ := h
  refine ⟨.repetition r 0 (some 1), by simp only [read?, hread], fun subject hs i j => ?_⟩
  rw [covers_or, covers_nil, ← hlead subject hs, Leads]
  constructor
  · rintro ⟨rounds, -, hmost, h⟩
    rcases Nat.le_one_iff_eq_zero_or_eq_one.1 (hmost 1 rfl) with rfl | rfl
    · exact .inl h
    · obtain ⟨k, hk, rfl⟩ := h
      exact .inr hk
  · rintro (h | h)
    · exact ⟨0, Nat.le_refl _, fun _ _ => Nat.zero_le _, h⟩
    · exact ⟨1, Nat.zero_le _, fun m hm => by cases hm; decide, j, h, rfl⟩

/-- A set of characters. -/
theorem denotes_chars {set : CodeSet} {P : Char → Prop} (hset : ∀ c, set.contains c = true ↔ P c)
    (hread : read? .initial p = some (.chars set, .initial)) :
    Denotes S p fun text => ∃ c, P c ∧ text = [c] := by
  refine ⟨.chars set, hread, fun subject hs i j => ?_⟩
  rw [covers_char, Leads]
  simp only [hset]

/-- A set of characters any number of times. -/
theorem denotes_run {set : CodeSet} {P : Char → Prop} (hset : ∀ c, set.contains c = true ↔ P c)
    (hread : read? .initial p = some (.chars set, .initial)) :
    Denotes S (.repetition p 0 none) fun text => ∀ c ∈ text, P c := by
  obtain ⟨r, hread, hlead⟩ := denotes_chars (S := S) hset hread
  refine ⟨.repetition r 0 none, by simp only [read?, hread], fun subject hs i j => ?_⟩
  have hrounds : r.Leads subject = Covers subject fun text => ∃ c, P c ∧ text = [c] := by
    funext i j
    exact propext (hlead subject hs i j)
  simp only [Leads, hrounds, iterated_covers_char]
  constructor
  · rintro ⟨rounds, -, -, text, hspan, -, htext⟩
    exact ⟨text, hspan, htext⟩
  · rintro ⟨text, hspan, htext⟩
    exact ⟨text.length, Nat.zero_le _, by simp, text, hspan, rfl, htext⟩

end Pattern
end RecordFilter

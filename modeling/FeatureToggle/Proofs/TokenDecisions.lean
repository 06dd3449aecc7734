import FeatureToggle.Proofs.Pieces
import FeatureToggle.Strategy.Tokens
import Mathlib.Data.List.Forall2

/-!
# Decisions by tokens

What a decision by tokens comes to, whatever the transform and the predicate are. There is one token
for each maximal run of the parameter, in the order of the runs; the tokens are asked from left to
right up to the first that decides; and the answer depends only on which runs the parameter has
(`TokenDriven.judged`).
-/
namespace FeatureToggle

/-! ## Searching -/

/-- Which items a search asks that goes from left to right and ends at the first hit. -/
inductive Asked {α : Type} (hits : α → Prop) : List α → List α → Prop where
  | all {items : List α} : (∀ a ∈ items, ¬ hits a) → Asked hits items items
  | upTo (passed : List α) {a : α} (rest : List α) : (∀ b ∈ passed, ¬ hits b) → hits a →
      Asked hits (passed ++ a :: rest) (passed ++ [a])

theorem Asked.cons {α : Type} {hits : α → Prop} {a : α} {items asked : List α} (ha : ¬ hits a)
    (h : Asked hits items asked) : Asked hits (a :: items) (a :: asked) := by
  cases h with
  | all hall => exact .all (List.forall_mem_cons.2 ⟨ha, hall⟩)
  | upTo passed rest hpassed hb =>
    exact .upTo (a :: passed) rest (List.forall_mem_cons.2 ⟨ha, hpassed⟩) hb

/-- The items that `Traced.any` asks leave their events, and no other does. -/
theorem Traced.exists_asked {α : Type} (p : α → Traced Bool) (items : List α) :
    ∃ asked, Asked (fun a => (p a).value = true) items asked ∧
      (Traced.any p items).events = asked.flatMap fun a => (p a).events := by
  induction items with
  | nil => exact ⟨[], .all (by simp), rfl⟩
  | cons a rest ih =>
    cases ha : (p a).value with
    | true =>
      refine ⟨[a], .upTo [] rest (by simp) ha, ?_⟩
      rw [any_cons_of_true ha, List.flatMap_singleton]
    | false =>
      obtain ⟨asked, hasked, hevents⟩ := ih
      refine ⟨a :: asked, hasked.cons (by simp [ha]), ?_⟩
      rw [any_cons_of_false ha, hevents, List.flatMap_cons]

namespace Strategy

open Text

/-! ## Tokens -/

/-- The token that a transformed run stands for: one exclamation mark in front, and only one, is
taken off and makes it negated. -/
inductive Token.Denotes : String → Token → Prop where
  | plain {text : String} : text.toList.head? ≠ some '!' → Denotes text ⟨text, false⟩
  | negated (rest : String) : Denotes ("!" ++ rest) ⟨rest, true⟩

theorem exists_eq_bang_append {text : String} (h : text.toList.head? = some '!') :
    ∃ rest, text = "!" ++ rest := by
  obtain ⟨cs, hcs⟩ := List.head?_eq_some_iff.1 h
  exact ⟨String.ofList cs, by simp [← String.toList_inj, hcs]⟩

theorem Token.ofChars_plain {text : String} (h : text.toList.head? ≠ some '!') :
    ofChars text.toList = ⟨text, false⟩ := by
  unfold ofChars
  split
  · next cs hchars => simp [hchars] at h
  · rw [String.ofList_toList]

theorem Token.ofChars_negated (rest : String) : ofChars ("!" ++ rest).toList = ⟨rest, true⟩ := by
  simp [ofChars]

theorem Token.denotes_ofChars (text : String) : Denotes text (ofChars text.toList) := by
  by_cases h : text.toList.head? = some '!'
  · obtain ⟨rest, rfl⟩ := exists_eq_bang_append h
    rw [ofChars_negated]
    exact .negated rest
  · rw [ofChars_plain h]
    exact .plain h

/-- Each token stands for one of the places, in the same order, which are those of the maximal runs
of the text. -/
structure Tokenized (transform : String → String) (text : String) (places : List Excerpt)
    (tokens : List Token) : Prop where
  ordered : places.Pairwise fun a b => a.before.length < b.before.length
  complete : ∀ e, e ∈ places ↔ e.IsRun text
  denoted : List.Forall₂ (fun (e : Excerpt) t => Token.Denotes (transform (.ofList e.letters)) t)
    places tokens

/-- Of two exclamation marks the second one belongs to the token. -/
example : tokensOf (fun run => run) " dev,\t!!qa  prod,, " =
    [⟨"dev", false⟩, ⟨"!qa", true⟩, ⟨"prod", false⟩] := by decide +kernel

theorem exists_tokenized (transform : String → String) (text : String) :
    ∃ places, Tokenized transform text places (tokensOf transform text) := by
  obtain ⟨places, hordered, hcomplete, hruns⟩ := exists_runs text
  refine ⟨places, hordered, hcomplete, ?_⟩
  rw [tokensOf, hruns, List.map_map, List.forall₂_map_right_iff, List.forall₂_same]
  exact fun e _ => Token.denotes_ofChars _

/-! ## The decision -/

/-- Whether the text has a maximal run with these letters. -/
def HasRun (text run : String) : Prop :=
  ∃ e : Excerpt, e.IsRun text ∧ String.ofList e.letters = run

namespace TokenDriven

variable (d : TokenDriven) (s : FeatureState) (user : Option User)

/-- A token decides if the predicate's answer differs from its negation. -/
def Decides (t : Token) : Prop := (d.holds t s user).value ≠ t.negated

/-- What a decision by tokens is, for a state and a caller. -/
structure Judged : Prop where
  missing : s.parameter d.parameter = none → tokenize s d.parameter d.transform = []
  tokens : ∀ text, s.parameter d.parameter = some text →
    ∃ places, Tokenized d.transform text places (tokenize s d.parameter d.transform)
  active : (d.isActive s user).value = true ↔
    ∃ t ∈ tokenize s d.parameter d.transform, d.Decides s user t
  /-- Whatever trace the predicate leaves, it is that of the tokens that are asked. -/
  asked : ∃ asked, Asked (d.Decides s user) (tokenize s d.parameter d.transform) asked ∧
    (d.isActive s user).events = asked.flatMap fun t => (d.holds t s user).events
  /-- If another state asks the same predicate on a list with the same runs, in whatever order and
  however often they stand there, the answer is the same. A predicate that read the list itself, and
  not only the token, would not be the same for both states. -/
  rearranged : ∀ s' text text', s.parameter d.parameter = some text →
    s'.parameter d.parameter = some text' → (∀ run, HasRun text' run ↔ HasRun text run) →
    (∀ t, (d.holds t s' user).value = (d.holds t s user).value) →
    (d.isActive s' user).value = (d.isActive s user).value

theorem value_isActive : (d.isActive s user).value =
    (d.tokens s).any fun t => (d.holds t s user).value != t.negated :=
  Traced.value_any _ _

theorem value_isActive_eq_true : (d.isActive s user).value = true ↔
    ∃ t ∈ d.tokens s, d.Decides s user t := by
  simp [value_isActive, Decides]

theorem mem_tokens {text : String} (h : s.parameter d.parameter = some text) {t : Token} :
    t ∈ d.tokens s ↔ ∃ run, HasRun text run ∧ Token.ofChars (d.transform run).toList = t := by
  simp only [tokens, tokenize, h, tokensOf, List.mem_map, mem_runs, HasRun]

/-- A decision by tokens in terms of the runs that they come from. -/
theorem value_isActive_iff : (d.isActive s user).value = true ↔
    ∃ text, s.parameter d.parameter = some text ∧
      ∃ run, HasRun text run ∧ d.Decides s user (Token.ofChars (d.transform run).toList) := by
  rw [value_isActive_eq_true]
  cases htext : s.parameter d.parameter with
  | none => simp [tokens, tokenize, htext]
  | some text =>
    simp only [mem_tokens d s htext, Option.some.injEq, exists_eq_left']
    constructor
    · rintro ⟨_, ⟨run, hrun, rfl⟩, hdecides⟩
      exact ⟨run, hrun, hdecides⟩
    · rintro ⟨run, hrun, hdecides⟩
      exact ⟨_, ⟨run, hrun, rfl⟩, hdecides⟩

theorem judged : d.Judged s user where
  missing h := by simp [tokenize, h]
  tokens text h := by simpa [tokenize, h] using exists_tokenized d.transform text
  active := d.value_isActive_eq_true s user
  asked := by
    obtain ⟨asked, hasked, hevents⟩ := Traced.exists_asked
      (fun t => do return (← d.holds t s user) != t.negated) (d.tokens s)
    refine ⟨asked, ?_, ?_⟩
    · have hdecides : d.Decides s user =
          fun t => ((d.holds t s user).value != t.negated) = true := by
        funext t
        simp [Decides]
      rw [hdecides]
      exact hasked
    · rw [isActive, hevents]
      simp
  rearranged s' text text' h h' hruns hsame := by
    have hdecides : d.Decides s' user = d.Decides s user := by
      funext t
      rw [Decides, Decides, hsame]
    rw [Bool.eq_iff_iff, value_isActive_eq_true, value_isActive_eq_true]
    simp only [mem_tokens d s' h', mem_tokens d s h, hruns, hdecides]

end TokenDriven

end Strategy

end FeatureToggle

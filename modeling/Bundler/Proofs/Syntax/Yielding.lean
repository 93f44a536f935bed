import Bundler.Proofs.Import.Plain
import Bundler.Proofs.Syntax.Words
import Bundler.Syntax.Parser

/-!
# What rules yield

A rule of the grammar yields results with a property if whatever it matches has the property. Results
of some rules are kept and come back later, so this is proved together with a property of what is
kept: the imports in a kept block are plain. A rule that only ends the parse yields whatever is asked
for.

What a rule yields follows from how it is put together, and is found by the search for instances. For
most rules it matters only that they keep sound results; such a rule is safe. What is asked of the
results of the others depends on their type.
-/

set_option autoImplicit false

namespace Bundler.Syntax

open Std
open Bundler.Import (ArePlain)

variable {α β : Type} {P : α → Prop} {Q : β → Prop}

/-- What is asked of results, by their type. -/
class Checked (α : Type) where
  /-- Whether a result is as asked. -/
  Holds : α → Prop

/-- Names are plain. -/
instance : Checked String := ⟨Import.IsPlain⟩

/-- The name of something imported is plain. -/
instance : Checked Alias := ⟨fun a => Import.IsPlain a.name⟩

/-- The imports in a statement are plain. -/
instance : Checked Stmt := ⟨fun s => ArePlain s.heads⟩

/-- The imports in a handler are plain. -/
instance : Checked Handler := ⟨fun h => ArePlain (handlerHeads [h])⟩

/-- The imports in a case are plain. -/
instance : Checked MatchCase := ⟨fun c => ArePlain (caseHeads [c])⟩

/-- All elements are as asked. -/
instance [Checked α] : Checked (List α) := ⟨fun l => ∀ a ∈ l, Checked.Holds a⟩

/-- A value is as asked if it is there. -/
instance [Checked α] : Checked (Option α) := ⟨fun o => ∀ a ∈ o, Checked.Holds a⟩

/-- What is asked of the results of a rule that occurs in others. -/
abbrev Nonterminal.Holds : (n : Nonterminal) → n.Result → Prop
  | .simpleStatement | .statement | .block | .elifChain => Checked.Holds
  | _ => fun _ => True

/-- What is kept of a rule holds of its results. -/
def ParseState.IsSound (s : ParseState) : Prop :=
  ∀ (place : Nonterminal × Nat) (n : Nonterminal) (result : n.Result) (stop : Nat),
    s.kept[place]? = some (.matched n result stop) → n.Holds result

/-- A reply is sound if its result has a property, and if what is kept is sound. -/
inductive Reply.IsSound (P : α → Prop) : Reply α → Prop where
  | matched {a : α} {s : ParseState} (result : P a) (kept : s.IsSound) : IsSound P (.matched a s)
  | noMatch {s : ParseState} (kept : s.IsSound) : IsSound P (.noMatch s)
  | gaveUp {s : ParseState} (kept : s.IsSound) : IsSound P (.gaveUp s)
  | raised {e : SyntaxError} {reach : Nat} : IsSound P (.raised e reach)

/-- The rules that are compared by their numbers are in order. -/
instance : TransOrd Nonterminal := by
  have hcompare : (compare : Nonterminal → Nonterminal → Ordering) =
      compareOn Nonterminal.ctorIdx := rfl
  unfold TransOrd
  rw [hcompare]
  infer_instance

/-- The places at which results are kept are in order. -/
instance : TransCmp comparePlaces := by
  have hcompare : comparePlaces = compareLex (compareOn Prod.snd) (compareOn Prod.fst) := rfl
  rw [hcompare]
  infer_instance

/-- What is kept is sound after one more sound result. -/
theorem ParseState.IsSound.insert {s : ParseState} (h : s.IsSound) (place : Nonterminal × Nat)
    {k : Kept} (hk : ∀ n (result : n.Result) stop, k = .matched n result stop → n.Holds result) :
    { s with kept := s.kept.insert place k }.IsSound := by
  intro other n result stop hkept
  rw [TreeMap.getElem?_insert] at hkept
  split at hkept
  · exact hk n result stop (Option.some.inj hkept)
  · exact h other n result stop hkept

namespace Parser

/-- A rule yields results with a property, and keeps sound results only. -/
class Yields (p : Parser α) (P : α → Prop) : Prop where
  isSound : ∀ c s, AreFormed c.stream.tokens → s.IsSound → (p c s).IsSound P

/-- A rule keeps sound results only. -/
abbrev IsSafe (p : Parser α) : Prop := Yields p fun _ => True

variable {p q : Parser α} {f : α → Parser β}

/-! ## Sequences and alternatives -/

/-- What a rule yields has a weaker property, too. -/
theorem Yields.mono {P' : α → Prop} (h : Yields p P) (hP : ∀ a, P a → P' a) : Yields p P' := by
  refine ⟨fun c s hc hs => ?_⟩
  have hreply := h.isSound c s hc hs
  generalize p c s = reply at hreply
  cases hreply with
  | matched result kept => exact .matched (hP _ result) kept
  | noMatch kept => exact .noMatch kept
  | gaveUp kept => exact .gaveUp kept
  | raised => exact .raised

/-- A rule that yields something is safe. -/
theorem Yields.isSafe (h : Yields p P) : IsSafe p :=
  h.mono fun _ _ => trivial

/-- A value is yielded. -/
theorem yields_pure {a : α} (h : P a) : Yields (pure a : Parser α) P := by
  refine ⟨fun c s _ hs => ?_⟩
  exact .matched h hs

/-- Any value is safe. -/
instance {a : α} : IsSafe (pure a : Parser α) := yields_pure trivial

/-- A value with a property is yielded. -/
instance {a : α} [h : Fact (P a)] : Yields (pure a : Parser α) P := yields_pure h.out

/-- A second rule is given what the first one yields. -/
theorem Yields.bind (hp : Yields p P) (hf : ∀ a, P a → Yields (f a) Q) : Yields (p >>= f) Q := by
  refine ⟨fun c s hc hs => ?_⟩
  have hreply := hp.isSound c s hc hs
  change (Parser.bind p f c s).IsSound Q
  unfold Parser.bind
  generalize p c s = reply at hreply
  cases hreply with
  | matched result kept => exact (hf _ result).isSound c _ hc kept
  | noMatch kept => exact .noMatch kept
  | gaveUp kept => exact .gaveUp kept
  | raised => exact .raised

/-- What comes before a rule makes no difference to what it yields. -/
theorem yields_after (hp : IsSafe p) (hf : ∀ a, Yields (f a) Q) : Yields (p >>= f) Q :=
  hp.bind fun a _ => hf a

/-- A rule yields the same after a safe one. -/
instance [hp : IsSafe p] [hf : ∀ a, Yields (f a) Q] : Yields (p >>= f) Q := yields_after hp hf

/-- A result may be changed. -/
instance {g : α → β} [hp : IsSafe p] : IsSafe (g <$> p) :=
  hp.bind fun _ _ => yields_pure trivial

/-- Two alternatives yield what both of them do. -/
instance [hp : Yields p P] [hq : Yields q P] : Yields (orElse p q) P := by
  refine ⟨fun c s hc hs => ?_⟩
  have hreply := hp.isSound c s hc hs
  unfold orElse
  generalize p c s = reply at hreply
  cases hreply with
  | matched result kept => exact .matched result kept
  | noMatch kept => exact hq.isSound c _ hc kept
  | gaveUp kept => exact .gaveUp kept
  | raised => exact .raised

/-- No match yields anything. -/
instance : Yields (fail : Parser α) P := by
  refine ⟨fun c s _ hs => ?_⟩
  exact .noMatch hs

/-- No alternative yields anything. -/
instance : Yields (choice ([] : List (Parser α))) P :=
  inferInstanceAs (Yields fail P)

/-- Alternatives yield what the first one and all others do. -/
instance {ps : List (Parser α)} [hp : Yields p P] [hps : Yields (choice ps) P] :
    Yields (choice (p :: ps)) P := by
  cases ps with
  | nil => exact hp
  | cons q ps => exact inferInstanceAs (Yields (orElse p (choice (q :: ps))) P)

/-- Alternatives of one form yield what each of them does. -/
instance {γ : Type} {l : List γ} {g : γ → Parser α} [hg : ∀ x, Yields (g x) P] :
    Yields (choice (l.map g)) P := by
  induction l with
  | nil => exact inferInstanceAs (Yields fail P)
  | cons x l ih => exact inferInstanceAs (Yields (choice (g x :: l.map g)) P)

/-- A rule yields what its body does. -/
theorem yields_rule (hp : Yields p P) : Yields (rule p) P := by
  refine ⟨fun c s hc hs => ?_⟩
  have hreply := hp.isSound c s hc hs
  unfold rule
  generalize p c s = reply at hreply
  cases hreply with
  | matched result kept => exact .matched result kept
  | noMatch kept => exact .noMatch kept
  | gaveUp kept => exact .noMatch kept
  | raised => exact .raised

/-- The rule of a body yields what the body does. -/
instance [hp : Yields p P] : Yields (rule p) P := yields_rule hp

/-- A rule yields what its alternatives do. -/
instance {ps : List (Parser α)} [hps : Yields (choice ps) P] : Yields (ruleOf ps) P :=
  inferInstanceAs (Yields (rule (choice ps)) P)

/-- Alternatives yield what each of them does. -/
theorem yields_choice {ps : List (Parser α)} (h : ps.Forall fun p => Yields p P) :
    Yields (choice ps) P := by
  rw [List.forall_iff_forall_mem] at h
  induction ps with
  | nil => infer_instance
  | cons p ps ih =>
    rw [List.forall_mem_cons] at h
    have hp := h.1
    have hps := ih h.2
    infer_instance

/-- A rule yields what each of its alternatives does. -/
theorem yields_ruleOf {ps : List (Parser α)} (h : ps.Forall fun p => Yields p P) :
    Yields (ruleOf ps) P := by
  have hchoice := yields_choice h
  infer_instance

/-- What must match yields what it does. -/
instance [hp : Yields p P] : Yields (commit p) P := by
  refine ⟨fun c s hc hs => ?_⟩
  have hreply := hp.isSound c s hc hs
  unfold commit
  generalize p c s = reply at hreply
  cases hreply with
  | matched result kept => exact .matched result kept
  | noMatch kept => exact .gaveUp kept
  | gaveUp kept => exact .gaveUp kept
  | raised => exact .raised

/-- The diagnosing pass yields what the rule does. -/
instance [hp : Yields p P] : Yields (diagnosis p) P := by
  have hrule : Yields (rule p) P := inferInstance
  refine ⟨fun c s hc hs => ?_⟩
  unfold diagnosis
  split
  · exact hrule.isSound c s hc hs
  · exact .noMatch hs

/-- A rule yields the same without diagnoses. -/
instance [hp : Yields p P] : Yields (undiagnosed p) P := by
  refine ⟨fun c s hc hs => ?_⟩
  have hreply := hp.isSound c { s with diagnosing := false } hc hs
  unfold undiagnosed
  dsimp only
  generalize p c { s with diagnosing := false } = reply at hreply
  cases hreply with
  | matched result kept => exact .matched result kept
  | noMatch kept => exact .noMatch kept
  | gaveUp kept => exact .gaveUp kept
  | raised => exact .raised

/-- One of two rules yields what both of them do. -/
instance {condition : Prop} [Decidable condition] [hp : Yields p P] [hq : Yields q P] :
    Yields (if condition then p else q) P := by
  split
  · exact hp
  · exact hq

/-- Giving up yields nothing. -/
instance : Yields (giveUp : Parser α) P := by
  refine ⟨fun c s _ hs => ?_⟩
  exact .gaveUp hs

/-- A fault on a line yields nothing. -/
instance {fault : Fault} {line : Nat} : Yields (raiseAt fault line : Parser α) P := by
  refine ⟨fun c s _ _ => ?_⟩
  exact .raised

/-- A fault yields nothing. -/
instance {fault : Fault} : Yields (raise fault : Parser α) P := by
  refine ⟨fun c s _ _ => ?_⟩
  exact .raised

/-! ## Repetitions -/

/-- What may be missing has the property if it is there. -/
theorem Yields.optional (h : Yields p P) : Yields (optional p) fun a => ∀ x ∈ a, P x := by
  have hrule : Yields (rule p) P := inferInstance
  have hsome : Yields (some <$> rule p) fun a => ∀ x ∈ a, P x := by
    refine hrule.bind fun a ha => yields_pure ?_
    intro x hx
    rwa [← Option.some.inj hx]
  have hnone : Yields (pure none) fun a : Option α => ∀ x ∈ a, P x := yields_pure nofun
  exact inferInstanceAs (Yields (orElse (some <$> rule p) (pure none)) _)

/-- What may be missing is safe. -/
instance [hp : IsSafe p] : IsSafe (optional p) := hp.optional.isSafe

/-- All matches of a rule have the property. -/
theorem Yields.manyFrom (h : Yields p P) {fuel : Nat} {read : List α} (hread : ∀ a ∈ read, P a) :
    Yields (manyFrom p read fuel) fun l => ∀ a ∈ l, P a := by
  have hreverse : ∀ {l : List α}, (∀ a ∈ l, P a) → ∀ a ∈ l.reverse, P a := by
    intro l hl a ha
    exact hl a (List.mem_reverse.mp ha)
  have hrule : Yields (rule p) P := inferInstance
  induction fuel generalizing read with
  | zero => exact yields_pure (hreverse hread)
  | succ fuel ih =>
    refine ⟨fun c s hc hs => ?_⟩
    have hreply := hrule.isSound c s hc hs
    unfold Parser.manyFrom
    dsimp only
    generalize rule p c s = reply at hreply
    cases hreply with
    | @matched a next result kept =>
      have hmore : ∀ b ∈ a :: read, P b := List.forall_mem_cons.mpr ⟨result, hread⟩
      dsimp only
      split
      · exact .matched (hreverse hmore) kept
      · exact (ih hmore).isSound c _ hc kept
    | noMatch kept => exact .matched (hreverse hread) kept
    | gaveUp kept => exact .matched (hreverse hread) kept
    | raised => exact .raised

/-- A repeated rule yields a list of what it yields. -/
theorem Yields.many (h : Yields p P) : Yields (many p) fun l => ∀ a ∈ l, P a := by
  refine ⟨fun c s hc hs => ?_⟩
  exact (h.manyFrom (List.forall_mem_nil _)).isSound c s hc hs

/-- A repeated rule is safe. -/
instance [hp : IsSafe p] : IsSafe (many p) := hp.many.isSafe

/-- A rule that is repeated at least once yields a list of what it yields. -/
theorem Yields.many1 (h : Yields p P) : Yields (many1 p) fun l => ∀ a ∈ l, P a := by
  have hrule : Yields (rule p) P := inferInstance
  refine hrule.bind fun first hfirst => h.many.bind fun rest hrest => ?_
  exact yields_pure (List.forall_mem_cons.mpr ⟨hfirst, hrest⟩)

/-- A rule that is repeated at least once is safe. -/
instance [hp : IsSafe p] : IsSafe (many1 p) := hp.many1.isSafe

/-- Separators make no difference to what is yielded. -/
theorem Yields.sepBy1 (h : Yields p P) {separator : Parser β} (hseparator : IsSafe separator) :
    Yields (sepBy1 p separator) fun l => ∀ a ∈ l, P a := by
  have hrule : Yields (rule p) P := inferInstance
  have hnext : Yields (do let _ ← separator; rule p) P := inferInstance
  refine hrule.bind fun first hfirst => hnext.many.bind fun rest hrest => ?_
  exact yields_pure (List.forall_mem_cons.mpr ⟨hfirst, hrest⟩)

/-- A rule with separators is safe. -/
instance {separator : Parser β} [hp : IsSafe p] [hs : IsSafe separator] :
    IsSafe (sepBy1 p separator) :=
  (hp.sepBy1 hs).isSafe

/-- A rule that goes on from a first result is safe. -/
instance {step : α → Parser α} {first : α} [hstep : ∀ a, IsSafe (step a)] :
    IsSafe (extend step first) := by
  have hgo : ∀ fuel a, IsSafe (extend.go step a fuel) := by
    intro fuel
    induction fuel with
    | zero => exact fun a => yields_pure trivial
    | succ fuel ih =>
      refine fun a => ⟨fun c s hc hs => ?_⟩
      have hrule : IsSafe (rule (step a)) := inferInstance
      have hreply := hrule.isSound c s hc hs
      unfold extend.go
      dsimp only
      generalize rule (step a) c s = reply at hreply
      cases hreply with
      | matched _ kept => exact (ih _).isSound c _ hc kept
      | noMatch kept => exact .matched trivial kept
      | gaveUp kept => exact .matched trivial kept
      | raised => exact .raised
  exact ⟨fun c s hc hs => (hgo _ first).isSound c s hc hs⟩

/-! ## Looking ahead -/

/-- Looking for a rule is safe. -/
instance [hp : IsSafe p] : IsSafe (ahead p) := by
  have hrule : IsSafe (rule p) := inferInstance
  refine ⟨fun c s hc hs => ?_⟩
  have hreply := hrule.isSound c s hc hs
  unfold ahead
  generalize rule p c s = reply at hreply
  cases hreply with
  | matched _ kept => exact .matched trivial kept
  | noMatch kept => exact .noMatch kept
  | gaveUp kept => exact .noMatch kept
  | raised => exact .raised

/-- Looking for the absence of a rule is safe. -/
instance [hp : IsSafe p] : IsSafe (notAhead p) := by
  have hrule : IsSafe (rule p) := inferInstance
  refine ⟨fun c s hc hs => ?_⟩
  have hreply := hrule.isSound c s hc hs
  unfold notAhead
  generalize rule p c s = reply at hreply
  cases hreply with
  | matched _ kept => exact .noMatch kept
  | noMatch kept => exact .matched trivial kept
  | gaveUp kept => exact .matched trivial kept
  | raised => exact .raised

/-! ## Tokens -/

/-- The next token is a word if it is a name. -/
theorem yields_peek : Yields peek Token.IsFormed := by
  refine ⟨fun c s hc hs => ?_⟩
  unfold peek
  split
  · next t ht => exact .matched (hc t (Array.mem_of_getElem? ht)) hs
  · split
    · exact .raised
    · exact .noMatch hs

/-- A token that is read is a word if it is a name, and meets the condition. -/
theorem yields_tokenIf {condition : Token → Bool} :
    Yields (tokenIf condition) fun t => t.IsFormed ∧ condition t = true := by
  refine ⟨fun c s hc hs => ?_⟩
  have hreply := yields_peek.isSound c s hc hs
  unfold tokenIf
  generalize peek c s = reply at hreply
  cases hreply with
  | matched result kept =>
    dsimp only
    split
    · next h => exact .matched ⟨result, h⟩ kept
    · exact .noMatch kept
  | noMatch kept => exact .noMatch kept
  | gaveUp kept => exact .gaveUp kept
  | raised => exact .raised

/-- Reading a token is safe. -/
instance {condition : Token → Bool} : IsSafe (tokenIf condition) := yields_tokenIf.isSafe

/-- Looking at the line is safe. -/
instance : IsSafe currentLine := yields_peek.bind fun _ _ => yields_pure trivial

/-- Looking back at a token is safe. -/
instance : IsSafe lastToken := by
  refine ⟨fun c s hc hs => ?_⟩
  unfold lastToken
  split
  · exact .matched trivial hs
  · exact .noMatch hs

/-! ## Kept results -/

/-- A kept rule yields what it yields anew. -/
theorem Yields.keep {n : Nonterminal} {p : Parser n.Result} (h : Yields p n.Holds) :
    Yields (keep n p) n.Holds := by
  have hrule : Yields (rule p) n.Holds := inferInstance
  refine ⟨fun c s hc hs => ?_⟩
  unfold Parser.keep
  dsimp only
  split
  · exact .noMatch hs
  · next m result stop hkept =>
    split
    · next hm =>
      subst hm
      exact .matched (hs _ _ _ _ hkept) hs
    · exact .noMatch hs
  · have hreply := hrule.isSound c s hc hs
    generalize rule p c s = reply at hreply
    cases hreply with
    | matched result kept =>
      refine .matched result (kept.insert _ ?_)
      intro m other stop heq
      cases heq
      exact result
    | noMatch kept => exact .noMatch (kept.insert _ nofun)
    | gaveUp kept => exact .gaveUp kept
    | raised => exact .raised

/-! ## Results as asked

The search for instances takes no hypotheses about what a function is given, so a result is passed on
together with the fact that it is as asked.
-/

section Checked

variable [Checked α]

/-- What is given as such is as asked. -/
instance {a : { a : α // Checked.Holds a }} : Fact (Checked.Holds a.1) := ⟨a.2⟩

/-- A second rule is given results as asked. -/
instance {f : α → Parser β} [hp : Yields p Checked.Holds]
    [hf : ∀ a : { a : α // Checked.Holds a }, Yields (f a.1) Q] : Yields (p >>= f) Q :=
  hp.bind fun a ha => hf ⟨a, ha⟩

/-- What may be missing is as asked. -/
instance [hp : Yields p Checked.Holds] : Yields (optional p) Checked.Holds := hp.optional

/-- What is repeated is as asked. -/
instance [hp : Yields p Checked.Holds] : Yields (many p) Checked.Holds := hp.many

/-- What is repeated at least once is as asked. -/
instance [hp : Yields p Checked.Holds] : Yields (many1 p) Checked.Holds := hp.many1

/-- What is separated is as asked. -/
instance {separator : Parser β} [hp : Yields p Checked.Holds] [hs : IsSafe separator] :
    Yields (sepBy1 p separator) Checked.Holds :=
  hp.sepBy1 hs

/-- Nothing is as asked. -/
instance : Fact (Checked.Holds ([] : List α)) := ⟨List.forall_mem_nil _⟩

/-- A list of one is as asked. -/
instance {a : α} [h : Fact (Checked.Holds a)] : Fact (Checked.Holds [a]) :=
  ⟨List.forall_mem_singleton.mpr h.out⟩

/-- Lists in a row are as asked. -/
instance {l : List (List α)} [h : Fact (Checked.Holds l)] : Fact (Checked.Holds l.flatten) := by
  refine ⟨fun a ha => ?_⟩
  obtain ⟨part, hpart, ha⟩ := List.mem_flatten.mp ha
  exact h.out part hpart a ha

/-- A list that may be missing is as asked. -/
instance {o : Option (List α)} [h : Fact (Checked.Holds o)] : Fact (Checked.Holds (o.getD [])) := by
  refine ⟨?_⟩
  cases o with
  | none => exact List.forall_mem_nil _
  | some l => exact h.out l rfl

/-- A value that is there is as asked. -/
instance {a : α} [h : Fact (Checked.Holds a)] : Fact (Checked.Holds (some a)) := by
  refine ⟨fun b hb => ?_⟩
  rw [← Option.some.inj hb]
  exact h.out

/-- A value that is not there is as asked. -/
instance : Fact (Checked.Holds (none : Option α)) := ⟨nofun⟩

end Checked

end Parser

end Bundler.Syntax

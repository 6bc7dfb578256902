import LineScopes.Proofs.Agreement
import LineScopes.Proofs.Computation

/-!
# Computations that ask for passages

To tokenize a text, the passages in its captures have to be tokenized. Seen as
an inquiry that asks for each of them and goes on with the reply, this is
finite whatever the replies are. They only decide which questions come up.
-/

namespace LineScopes

inductive Inquiry (ρ α : Type)
  | answer (a : α)
  | fail (e : Halt TokenizeError)
  /-- Asks for a passage, and goes on once it has been painted. -/
  | ask (passage : Passage ρ) (next : Paint → Inquiry ρ α)

namespace Inquiry

def bind : Inquiry ρ α → (α → Inquiry ρ β) → Inquiry ρ β
  | answer a, f => f a
  | fail e, _ => fail e
  | ask passage next, f => ask passage fun paint => (next paint).bind f

def handle : Inquiry ρ α → (Halt TokenizeError → Inquiry ρ α) → Inquiry ρ α
  | answer a, _ => answer a
  | fail e, f => f e
  | ask passage next, f => ask passage fun paint => (next paint).handle f

instance : Monad (Inquiry ρ) where
  pure := answer
  bind := bind

instance : MonadExceptOf (Halt TokenizeError) (Inquiry ρ) where
  throw := fail
  tryCatch := handle

def ofExcept : Except (Halt TokenizeError) α → Inquiry ρ α
  | .ok a => answer a
  | .error e => fail e

/-- Asks for the passage and nothing else. -/
def query : Rescan (Inquiry ρ) ρ := fun passage => ask passage answer

-- ---------------------------------------------------------------------------
-- Replies
-- ---------------------------------------------------------------------------

/-- What an inquiry comes to with the replies given. -/
def answeredBy (rescan : Rescan (Except (Halt TokenizeError)) ρ) :
    Inquiry ρ α → Except (Halt TokenizeError) α
  | answer a => .ok a
  | fail e => .error e
  | ask passage next => do (next (← rescan passage)).answeredBy rescan

variable {rescan rescan' : Rescan (Except (Halt TokenizeError)) ρ}

theorem answeredBy_ask_ok {next : Paint → Inquiry ρ α} (h : rescan passage = .ok paint) :
    (ask passage next).answeredBy rescan = (next paint).answeredBy rescan := by
  rw [answeredBy, h]
  rfl

theorem answeredBy_ask_error {next : Paint → Inquiry ρ α} (h : rescan passage = .error e) :
    (ask passage next).answeredBy rescan = .error e := by
  rw [answeredBy, h]
  rfl

theorem answeredBy_bind (t : Inquiry ρ α) (f : α → Inquiry ρ β) :
    (t.bind f).answeredBy rescan =
      t.answeredBy rescan >>= fun a => (f a).answeredBy rescan := by
  induction t with
  | answer a => rfl
  | fail e => rfl
  | ask passage next ih =>
    rw [bind]
    cases h : rescan passage with
    | ok paint =>
      rw [answeredBy_ask_ok h, answeredBy_ask_ok h]
      exact ih paint
    | error e =>
      rw [answeredBy_ask_error h, answeredBy_ask_error h]
      rfl

/-- An inquiry comes to what the same computation comes to that asks nothing. -/
def answering (rescan : Rescan (Except (Halt TokenizeError)) ρ) :
    Agreement (Inquiry ρ) (Except (Halt TokenizeError)) where
  agree t x := t.answeredBy rescan = x
  pure _ := rfl
  bind {_ _ t x f g} ht hf := by
    change (t.bind f).answeredBy rescan = x >>= g
    rw [answeredBy_bind, ht]
    exact congrArg _ (funext hf)
  throw _ := rfl

theorem query_agree (rescan : Rescan (Except (Halt TokenizeError)) ρ) :
    (answering rescan).Rescans query rescan := by
  intro passage
  change (rescan passage >>= fun paint => .ok paint) = rescan passage
  cases rescan passage <;> rfl

/-- A way to tokenize passages that gives the results of another one, and maybe more. -/
def Extends (rescan rescan' : Rescan (Except (Halt TokenizeError)) ρ) : Prop :=
  ∀ passage, rescan passage ≠ .error (.crash .endless) → rescan' passage = rescan passage

theorem answeredBy_extends (hextends : Extends rescan rescan') {t : Inquiry ρ α}
    (h : t.answeredBy rescan ≠ .error (.crash .endless)) :
    t.answeredBy rescan' = t.answeredBy rescan := by
  induction t with
  | answer a => rfl
  | fail e => rfl
  | ask passage next ih =>
    have hsame := hextends passage fun hendless => h (answeredBy_ask_error hendless)
    cases hpassage : rescan passage with
    | error e =>
      rw [hpassage] at hsame
      rw [answeredBy_ask_error hpassage, answeredBy_ask_error hsame]
    | ok paint =>
      rw [hpassage] at hsame
      rw [answeredBy_ask_ok hpassage] at h ⊢
      rw [answeredBy_ask_ok hsame]
      exact ih paint h

-- ---------------------------------------------------------------------------
-- Questions
-- ---------------------------------------------------------------------------

/-- The answers have a property, the errors are allowed, and so are the questions. -/
def Holds (allowed : Halt TokenizeError → Prop) (asked : Passage ρ → Prop) (P : α → Prop) :
    Inquiry ρ α → Prop
  | answer a => P a
  | fail e => allowed e
  | ask passage next => asked passage ∧ ∀ paint, (next paint).Holds allowed asked P

variable {allowed : Halt TokenizeError → Prop} {asked : Passage ρ → Prop}

theorem Holds.bind {P : α → Prop} {Q : β → Prop} {t : Inquiry ρ α} {f : α → Inquiry ρ β}
    (ht : t.Holds allowed asked P) (hf : ∀ a, P a → (f a).Holds allowed asked Q) :
    (t.bind f).Holds allowed asked Q := by
  induction t with
  | answer a => exact hf a ht
  | fail e => exact ht
  | ask passage next ih => exact ⟨ht.1, fun paint => ih paint (ht.2 paint)⟩

theorem Holds.mono {P Q : α → Prop} {t : Inquiry ρ α} (ht : t.Holds allowed asked P)
    (h : ∀ a, P a → Q a) : t.Holds allowed asked Q := by
  induction t with
  | answer a => exact h a ht
  | fail e => exact ht
  | ask passage next ih => exact ⟨ht.1, fun paint => ih paint (ht.2 paint)⟩

/-- Of inquiries, whatever the replies are. -/
def assertion (allowed : Halt TokenizeError → Prop) (asked : Passage ρ → Prop) :
    Assertion (Inquiry ρ) where
  allowed
  holds t P := t.Holds allowed asked P
  pure h := h
  bind := Holds.bind
  throw h := h
  mono := Holds.mono

/-- The questions that come up with the replies that there are. -/
inductive Asks (replies : Passage ρ → Paint → Prop) : Inquiry ρ α → Passage ρ → Prop
  | first {passage next} : Asks replies (ask passage next) passage
  | later {passage next paint inner} : replies passage paint → Asks replies (next paint) inner →
      Asks replies (ask passage next) inner

/-- The passage that is asked for before any is known. -/
def first? : Inquiry ρ α → Option (Passage ρ)
  | ask passage _ => some passage
  | answer _ | fail _ => none

theorem asks_of_first? {replies : Passage ρ → Paint → Prop} {t : Inquiry ρ α}
    {passage : Passage ρ} (h : t.first? = some passage) : t.Asks replies passage := by
  cases t with
  | ask =>
    obtain rfl := Option.some.inj h
    exact .first
  | answer | fail => contradiction

theorem Asks.of_holds {replies : Passage ρ → Paint → Prop} {t : Inquiry ρ α} {passage : Passage ρ}
    (h : t.Asks replies passage) (ht : t.Holds allowed asked P) : asked passage := by
  induction h with
  | first => exact ht.1
  | later _ _ ih => exact ih (ht.2 _)

-- ---------------------------------------------------------------------------
-- Replies of some kind
-- ---------------------------------------------------------------------------

/-- What an inquiry can come to with the replies that there are. -/
inductive Yields (replies : Passage ρ → Paint → Prop) : Inquiry ρ α → α → Prop
  | answer {a} : Yields replies (answer a) a
  | ask {passage next paint a} : replies passage paint → Yields replies (next paint) a →
      Yields replies (ask passage next) a

variable {replies : Passage ρ → Paint → Prop}

theorem Yields.mono {replies' : Passage ρ → Paint → Prop} {t : Inquiry ρ α}
    (h : t.Yields replies a) (hreplies : ∀ passage paint, replies passage paint →
      replies' passage paint) : t.Yields replies' a := by
  induction h with
  | answer => exact .answer
  | ask hreply _ ih => exact .ask (hreplies _ _ hreply) ih

/-- The answers have a property and the questions are allowed, as long as there are only some
replies. -/
def HoldsUnder (replies : Passage ρ → Paint → Prop) (asked : Passage ρ → Prop) (P : α → Prop) :
    Inquiry ρ α → Prop
  | answer a => P a
  | fail _ => True
  | ask passage next =>
    asked passage ∧ ∀ paint, replies passage paint → (next paint).HoldsUnder replies asked P

namespace HoldsUnder

variable {P : α → Prop} {t : Inquiry ρ α}

theorem bind {Q : β → Prop} {f : α → Inquiry ρ β} (ht : t.HoldsUnder replies asked P)
    (hf : ∀ a, P a → (f a).HoldsUnder replies asked Q) :
    (t.bind f).HoldsUnder replies asked Q := by
  induction t with
  | answer a => exact hf a ht
  | fail e => trivial
  | ask passage next ih => exact ⟨ht.1, fun paint hreply => ih paint (ht.2 paint hreply)⟩

theorem imp {Q : α → Prop} (ht : t.HoldsUnder replies asked P)
    (h : ∀ a, t.Yields replies a → P a → Q a) : t.HoldsUnder replies asked Q := by
  induction t with
  | answer a => exact h a .answer ht
  | fail e => trivial
  | ask passage next ih =>
    refine ⟨ht.1, fun paint hreply => ih paint (ht.2 paint hreply) fun a hyields => ?_⟩
    exact h a (.ask hreply hyields)

/-- The answer has the property if the replies to all questions that come up are of the kind. -/
theorem of_answeredBy {known : Passage ρ → Paint → Prop} (ht : t.HoldsUnder replies asked P)
    (hreplies : ∀ passage paint, t.Asks known passage → asked passage →
      rescan passage = .ok paint → known passage paint ∧ replies passage paint)
    (h : t.answeredBy rescan = .ok a) : P a := by
  induction t with
  | answer b =>
    obtain rfl : b = a := Except.ok.inj h
    exact ht
  | fail e => contradiction
  | ask passage next ih =>
    obtain ⟨hasked, ht⟩ := ht
    obtain ⟨paint, hpaint, h⟩ := bind_ok.mp h
    obtain ⟨hknown, hreply⟩ := hreplies passage paint .first hasked hpaint
    refine ih paint (ht paint hreply) (fun inner paint' hasks => ?_) h
    exact hreplies inner paint' (.later hknown hasks)

end HoldsUnder

theorem Asks.of_holdsUnder {t : Inquiry ρ α} {passage : Passage ρ} (h : t.Asks replies passage)
    (ht : t.HoldsUnder replies asked P) : asked passage := by
  induction h with
  | first => exact ht.1
  | later hreply _ ih => exact ih (ht.2 _ hreply)

/-- Of inquiries that get only some replies, whatever they fail with. -/
def assertionUnder (replies : Passage ρ → Paint → Prop) (asked : Passage ρ → Prop) :
    Assertion (Inquiry ρ) where
  allowed _ := True
  holds t P := t.HoldsUnder replies asked P
  pure h := h
  bind := HoldsUnder.bind
  throw _ := trivial
  mono ht h := ht.imp fun a _ => h a

end Inquiry

end LineScopes

import Mathlib.Data.List.Basic

/-!
# Quoted text

Sequences in which pairs of quotes enclose spans. Inside a span the escape keeps the symbol behind
it from closing the span; between the spans it is a symbol like any other.
-/

namespace JunosMcp.Lib

structure Quoting (α : Type*) where
  isQuote : α → Bool
  escape : α
  escape_plain : isQuote escape = false

namespace Quoting

variable {α : Type*} (quoting : Quoting α)

/-- What a pair of this quote encloses. -/
inductive Body (quote : α) : List α → Prop where
  | nil : Body quote []
  | plain {a : α} {rest : List α} (differs : a ≠ quote) (kept : a ≠ quoting.escape)
      (body : Body quote rest) : Body quote (a :: rest)
  | escaped (a : α) {rest : List α} (body : Body quote rest) :
      Body quote (quoting.escape :: a :: rest)

/-- Every span is closed, and the symbols between the spans meet a condition. -/
inductive Closed (between : α → Prop) : List α → Prop where
  | nil : Closed between []
  | plain {a : α} {rest : List α} (bare : quoting.isQuote a = false) (meets : between a)
      (closed : Closed between rest) : Closed between (a :: rest)
  | span {quote : α} {body rest : List α} (opens : quoting.isQuote quote = true)
      (enclosed : quoting.Body quote body) (closed : Closed between rest) :
      Closed between (quote :: (body ++ quote :: rest))

/-- The end of the text lies inside a span. -/
def Within (text : List α) : Prop :=
  ∃ before quote body, text = before ++ quote :: body ∧ quoting.Closed (fun _ => True) before ∧
    quoting.isQuote quote = true ∧
    (quoting.Body quote body ∨
      ∃ front, body = front ++ [quoting.escape] ∧ quoting.Body quote front)

theorem quote_ne_escape {quoting : Quoting α} {quote : α} (opens : quoting.isQuote quote = true) :
    quote ≠ quoting.escape := by
  rintro rfl
  rw [quoting.escape_plain] at opens
  cases opens

/-! ## Reading symbol by symbol -/

inductive Place (α : Type*) where
  | between
  | inside (quote : α)
  | escaping (quote : α)

variable [DecidableEq α]

def advance : Place α → α → Place α
  | .between, a => if quoting.isQuote a then .inside a else .between
  | .inside quote, a =>
      if a = quoting.escape then .escaping quote
      else if a = quote then .between
      else .inside quote
  | .escaping quote, _ => .inside quote

/-- Where the end of the text lies. -/
def placeAfter (text : List α) : Place α := text.foldl quoting.advance .between

variable {quoting}

theorem advance_opens {quote : α} (opens : quoting.isQuote quote = true) :
    quoting.advance .between quote = .inside quote := by
  rw [advance, if_pos opens]

theorem advance_bare {a : α} (bare : quoting.isQuote a = false) :
    quoting.advance .between a = .between := by
  rw [advance, bare, if_neg Bool.false_ne_true]

theorem advance_escape (quote : α) :
    quoting.advance (.inside quote) quoting.escape = .escaping quote := by
  rw [advance, if_pos rfl]

theorem advance_closes {quote : α} (opens : quoting.isQuote quote = true) :
    quoting.advance (.inside quote) quote = .between := by
  rw [advance, if_neg (quote_ne_escape opens), if_pos rfl]

theorem advance_inside {quote a : α} (differs : a ≠ quote) (kept : a ≠ quoting.escape) :
    quoting.advance (.inside quote) a = .inside quote := by
  rw [advance, if_neg kept, if_neg differs]

theorem Body.stays {quote : α} {body : List α} (enclosed : quoting.Body quote body) :
    body.foldl quoting.advance (.inside quote) = .inside quote := by
  induction enclosed with
  | nil => rfl
  | plain differs kept _ ih => rw [List.foldl_cons, advance_inside differs kept, ih]
  | escaped a _ ih =>
      rw [List.foldl_cons, List.foldl_cons, advance_escape]
      exact ih

theorem Closed.returns {between : α → Prop} {text : List α} (closed : quoting.Closed between text) :
    quoting.placeAfter text = .between := by
  induction closed with
  | nil => rfl
  | plain bare _ _ ih => rw [placeAfter, List.foldl_cons, advance_bare bare]; exact ih
  | span opens enclosed _ ih =>
      rw [placeAfter, List.foldl_cons, List.foldl_append, advance_opens opens, enclosed.stays,
        List.foldl_cons, advance_closes opens]
      exact ih

/-- A reader that is between the spans has none open behind it. -/
theorem not_within {text : List α} (here : quoting.placeAfter text = .between) :
    ¬quoting.Within text := by
  rintro ⟨before, quote, body, rfl, closed, opens, enclosed⟩
  have entered : quoting.placeAfter (before ++ quote :: body) =
      body.foldl quoting.advance (.inside quote) := by
    have returned := closed.returns
    rw [placeAfter] at returned
    rw [placeAfter, List.foldl_append, returned, List.foldl_cons, advance_opens opens]
  rw [entered] at here
  rcases enclosed with enclosed | ⟨front, rfl, enclosed⟩
  · rw [enclosed.stays] at here
    cases here
  · rw [List.foldl_append, enclosed.stays, List.foldl_cons, advance_escape] at here
    cases here

end Quoting

end JunosMcp.Lib

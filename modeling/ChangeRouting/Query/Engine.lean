import ChangeRouting.Store.Basic

/-!
# ChangeRouting.Query.Engine

Engines that answer queries over a store.

Routers put texts of their own into queries, and what these come to is not part of this library.  An engine is
given a whole query and what its parameters are bound to.  It answers with rows of any number and width, one
after the other, and a fault ends them; a query that cannot be prepared is answered by a fault alone.

What an engine answers depends on the store.  One that draws lots, counts or tells the time is as many engines
as it has answers: one for each moment at which it is asked.
-/

namespace ChangeRouting

/-- What the parameters of a query are bound to, by their names, if they have names; nothing stands for
null. -/
abbrev Bindings := Option String → Option String

/-- An engine for queries. -/
structure QueryEngine where
  /-- The rows of a query, one after the other; a fault ends them. -/
  answer : Store → String → Bindings → List (Except StatementFault (List Cell))

namespace QueryEngine

/-- What the rows of a query are read as, up to the first that cannot be read. -/
def read (engine : QueryEngine) (store : Store) (query : String) (bound : Bindings)
    (readRow : List Cell → Except StatementFault α) : Except StatementFault (List α) :=
  (engine.answer store query bound).mapM fun row => do readRow (← row)

end QueryEngine

end ChangeRouting

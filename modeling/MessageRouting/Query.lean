import MessageRouting.Query.Datum

/-!
# Queries

A query turns one datum into a sequence of data. It is built from paths, constants, operators and a
few functions; `Query.read` reads it from text and `Query.results` evaluates it.
-/

namespace MessageRouting

namespace Query

/-- An operator between two queries. -/
inductive Operator where
  /-- Sum, concatenation or union. -/
  | add
  /-- Difference. -/
  | subtract
  /-- Product, repetition or deep union. -/
  | multiply
  /-- Quotient, or the parts of a text between separators. -/
  | divide
  /-- Equality. -/
  | equal
  /-- Inequality. -/
  | unequal
  /-- Strictly before. -/
  | less
  /-- Not after. -/
  | atMost
  /-- Strictly after. -/
  | greater
  /-- Not before. -/
  | atLeast
deriving DecidableEq, Repr, Inhabited

/-- A function without arguments. -/
inductive Function where
  /-- No result. -/
  | empty
  /-- Fails with the input. -/
  | raise
  /-- The size of a container or text, the magnitude of a number. -/
  | length
  /-- The member names in order, or the positions of a list. -/
  | keys
  /-- The sum of all parts. -/
  | add
  /-- Whether the input does not hold. -/
  | not
  /-- The items in order. -/
  | sort
  /-- The first item. -/
  | first
  /-- The last item. -/
  | last
  /-- The name of the kind. -/
  | kind
  /-- The input as text. -/
  | asText
deriving DecidableEq, Repr, Inhabited

namespace Function

/-- The functions by name. -/
def named : List (String × Function) := [
  ("empty", empty), ("error", raise), ("length", length), ("keys", keys), ("add", add),
  ("not", not), ("sort", sort), ("first", first), ("last", last), ("type", kind),
  ("tostring", asText)]

end Function

/-- A name that is used and means nothing. -/
structure Reference where
  /-- The name, as it is reported. -/
  label : String
  /-- The line of the text in which it stands, counted from zero. -/
  line : Nat
deriving DecidableEq, Repr, Inhabited

end Query

/-- A query. -/
inductive Query where
  /-- The input. -/
  | identity
  /-- A datum of its own. -/
  | constant (d : Query.Datum)
  /-- The part of the subject at a key; a lenient one has no result where there is no such part. -/
  | index (subject key : Query) (lenient : Bool)
  /-- All parts of the subject; a lenient one has none of what has no parts. -/
  | each (subject : Query) (lenient : Bool)
  /-- The second query on each result of the first. -/
  | pipe (first next : Query)
  /-- The results of both. -/
  | both (first next : Query)
  /-- An operator on each pair of results. -/
  | operation (op : Query.Operator) (left right : Query)
  /-- Whether both hold. -/
  | conjunction (left right : Query)
  /-- Whether one holds. -/
  | disjunction (left right : Query)
  /-- The results of the first that hold, and those of the second if there are none. -/
  | alternative (first next : Query)
  /-- One of two queries, by what the test gives. -/
  | branch (test yes no : Query)
  /-- The results up to a failure. -/
  | attempt (body : Query)
  /-- The list of all results. -/
  | collect (body : Query)
  /-- Each object of the first query with one member more. -/
  | withMember (object key value : Query)
  /-- The opposite of a number. -/
  | negative (body : Query)
  /-- A function without arguments. -/
  | call (f : Query.Function)
  /-- The list of the results on all parts of the input. -/
  | map (body : Query)
  /-- The input, for each result that holds. -/
  | select (body : Query)
  /-- Whether the input begins with a text. -/
  | startsWith (body : Query)
  /-- Fails with a datum. -/
  | raise (body : Query)
  /-- The input, then the same on each result of the body. -/
  | iterate (body : Query)
  /-- The first result. -/
  | firstOf (body : Query)
  /-- The last result. -/
  | lastOf (body : Query)
  /-- A name that means nothing. -/
  | unknown (r : Query.Reference)
deriving Inhabited

end MessageRouting

/-
What a store replied, in full detail.

A complaint shows a reply so exactly that two different replies never look
alike: texts are quoted, and every value, reason and error says what kind of
thing it is.

There is one function for each type that can occur in a reply, and each calls
the one below it: a read shows an item, an item shows values, and an error shows
reasons, each of which may carry a text of its own. Items are shown in the order
of their attribute names, since the order in which a store happens to keep them
is no part of what it promises. A text that is missing and an empty text are
told apart, because a reason with an empty message is not a reason without one.
-/
import RemediationLedger.Store.Error
import RemediationLedger.Text.Quoted

namespace RemediationLedger.Conformance

def detailOfText : Option String → String
  | none => "None"
  | some s => "Some(" ++ quoted s ++ ")"

def detailOfValue : Value → String
  | .text s => "S(" ++ quoted s ++ ")"
  | .number decimal => "N(" ++ quoted decimal ++ ")"

/-- A row with its attributes in the order of their names. -/
def detailOfItem (item : Item) : String :=
  "\x7b" ++ ", ".intercalate
    (item.entries.map fun (name, value) => quoted name ++ ": " ++ detailOfValue value) ++ "\x7d"

def detailOfReason : CancellationReason → String
  | .notAtFault => "None"
  | .conditionFailed => "ConditionalCheckFailed"
  | .other code => "Other(" ++ quoted code ++ ")"

def detailOfReasons (reasons : List CancellationReason) : String :=
  "[" ++ ", ".intercalate (reasons.map detailOfReason) ++ "]"

def detailOfError : StoreError → String
  | .transactionCanceled reasons =>
    "TransactionCanceled \x7b reasons: " ++ detailOfReasons reasons ++ " \x7d"
  | .conditionFailed table => "ConditionalCheckFailed \x7b table: " ++ quoted table ++ " \x7d"
  | .tableNotFound table => "TableNotFound \x7b table: " ++ quoted table ++ " \x7d"
  | .invalidRequest problem => "InvalidRequest(" ++ quoted problem.message ++ ")"
  | .backend text => "Backend(" ++ quoted text ++ ")"

def detailOfDone : Except StoreError Unit → String
  | .ok () => "Ok(())"
  | .error e => "Err(" ++ detailOfError e ++ ")"

def detailOfRead : Except StoreError (Option Item) → String
  | .ok none => "Ok(None)"
  | .ok (some item) => "Ok(Some(" ++ detailOfItem item ++ "))"
  | .error e => "Err(" ++ detailOfError e ++ ")"

end RemediationLedger.Conformance

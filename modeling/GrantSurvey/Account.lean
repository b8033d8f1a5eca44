/-!
# Accounts of failures

A failure is told from the outside in: what was being attempted comes first, the cause last. The
same account is written on one line inside other texts, and as a paragraph on its own.
-/

namespace GrantSurvey

/-- What was being attempted, outermost first, with the cause at the end. -/
abbrev Account := List String

namespace Account

def inline (account : Account) : String :=
  ": ".intercalate account

def shiftTail (margin text : String) : String :=
  text.replace "\n" ("\n" ++ margin)

/-- The number of a cause, right-aligned in five columns. -/
def column (number : Nat) : String :=
  let digits := toString number
  String.ofList (List.replicate (5 - digits.length) ' ') ++ digits

/-- The account as a paragraph: the outermost line, then the causes below it. A single cause is
indented; several are numbered. -/
def paragraph : Account → String
  | [] => ""
  | [summary] => summary
  | [summary, cause] => summary ++ "\n\nCaused by:\n    " ++ shiftTail "    " cause
  | summary :: causes =>
      summary ++ "\n\nCaused by:" ++ String.join (causes.zipIdx.map fun (cause, number) =>
        "\n" ++ column number ++ ": " ++ shiftTail "       " cause)

end Account

end GrantSurvey

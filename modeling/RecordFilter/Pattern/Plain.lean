import RecordFilter.Pattern.Lead.Selection

/-! Regular expressions that hold of no more than a few texts, which are searched for as they are. -/

namespace RecordFilter.Regex

mutual
/-- The expression captures nothing and asks nothing about places. -/
def isBare : Regex → Bool
  | .empty => true
  | .text _ => true
  | .oneOf _ => true
  | .look _ => false
  | .repeated _ _ _ body => body.isBare
  | .captured _ => false
  | .inOrder parts => areBare parts
  | .choice branches => areBare branches
/-- The expressions capture nothing and ask nothing about places. -/
def areBare : List Regex → Bool
  | [] => true
  | part :: rest => part.isBare && areBare rest
end

/-- The number of texts from which on a choice between them is searched for in one go. -/
def manyTexts : Nat :=
  3000

/-- The expression is a text. -/
def isText : Regex → Bool
  | .text _ => true
  | _ => false

/-- The expression is a choice between very many texts. -/
def hasManyTexts : Regex → Bool
  | .choice branches => manyTexts ≤ branches.length && branches.all isText
  | _ => false

/-- Searching for a few texts, or for very many, tells whether the expression holds. -/
def isPlain (regex : Regex) : Bool :=
  regex.isBare &&
    (match regex.leads.selected with
      | some (lead :: leads) => Leads.allWhole (some (lead :: leads)) || regex.hasManyTexts
      | _ => regex.hasManyTexts)

end RecordFilter.Regex

import PurchaseStatus.Batch
import PurchaseStatus.Schema
import PurchaseStatus.Text.Search
import PurchaseStatus.Unicode.DecimalDigit

namespace PurchaseStatus.FinanceRemark

variable {n : Nat}

/-- The columns of last month's remarks, the one that is asked first in front. -/
def columnNames : List String := [Schema.financeRemark, Schema.financeRequestRemark]

def areDigits (cs : List Char) : Bool := cs.all Unicode.isDecimalDigit

/-- Writes every month `YYYY/MM` without its slash, in one pass from the left. -/
def joinMonths : List Char → List Char
  | a :: b :: c :: d :: slash :: e :: f :: rest =>
    if slash = '/' ∧ areDigits [a, b, c, d, e, f] then a :: b :: c :: d :: e :: f :: joinMonths rest
    else a :: joinMonths (b :: c :: d :: slash :: e :: f :: rest)
  | short => short

def normalize (remark : String) : String := String.ofList (joinMonths remark.toList)

def normalizeColumn (batch : Batch n) (column : String) : Batch n :=
  match batch.text? column with
  | some remarks => batch.putText column (remarks.map (·.map normalize))
  | none => batch

/-- The batch with the months in both remark columns written without slashes. -/
def normalizeColumns (batch : Batch n) : Batch n := columnNames.foldl normalizeColumn batch

/-- The fixed-asset posting `NNNNNN入FA` with which a text begins. -/
def postingAt? : List Char → Option (List Char)
  | a :: b :: c :: d :: e :: f :: '入' :: 'F' :: 'A' :: _ =>
    if areDigits [a, b, c, d, e, f] then some [a, b, c, d, e, f, '入', 'F', 'A'] else none
  | _ => none

/-- The leftmost fixed-asset posting. -/
def firstPosting? : List Char → Option (List Char)
  | [] => none
  | c :: cs => (postingAt? (c :: cs)).or (firstPosting? cs)

/-- The posting that a remark records. A partial completion is left to the rules. -/
def posting? (remark : String) : Option String :=
  if Text.contains remark "部分完成" then none
  else (firstPosting? remark.toList).map String.ofList

/-- A status column, and how many of its rows the postings have labelled. -/
structure Labelled (n : Nat) where
  status : Texts n
  count : Nat

/-- Gives unset rows the postings that the remarks record. -/
def Labelled.take (labelled : Labelled n) (remarks : Texts n) : Labelled n :=
  let postings := remarks.map (·.bind posting?)
  let rows := labelled.status.unset.and (postings.map (·.isSome))
  ⟨labelled.status.blend rows postings, labelled.count + rows.count⟩

/-- Labels unset rows with the postings of both remark columns, and counts them. Where there is
none the batch stays as it is. -/
def labelPostings (batch : Batch n) (statusColumn : String) : Batch n × Nat :=
  let labelled := (columnNames.filterMap batch.text?).foldl Labelled.take
    ⟨batch.textOrNulls statusColumn, 0⟩
  if labelled.count = 0 then (batch, 0)
  else (batch.putText statusColumn labelled.status, labelled.count)

end PurchaseStatus.FinanceRemark

/-!
The names of the columns that the built-in checks and the steps read and write.
-/

namespace PurchaseStatus.Schema

/-- The note of the rule that labelled the row. -/
def matchedNote : String := "matched_condition_on_status"

def glAccount : String := "GL#"
def itemDescription : String := "Item Description"

/-- The month in which the goods are expected, `YYYYMM`. -/
def expectedMonth : String := "Expected Received Month_轉換格式"

/-- The service period read out of the item description, `YYYYMM,YYYYMM`. -/
def descriptionPeriod : String := "YMs of Item Description"

/-- The period of a description that could not be read. -/
def formatErrorPeriod : String := "100001,100002"

def entryQuantity : String := "Entry Quantity"
def receivedQuantity : String := "Received Quantity"
def billedQuantity : String := "Billed Quantity"
def entryAmount : String := "Entry Amount"
def entryBilledAmount : String := "Entry Billed Amount"
def entryPrepayAmount : String := "Entry Prepay Amount"
def unitPrice : String := "Unit Price"
def currency : String := "Currency"
def productCode : String := "Product Code"
def department : String := "Department"
def project : String := "Project"

def procurementRemark : String := "Remarked by Procurement"

/-- What the finance department remarked last month, on orders and on requests. -/
def financeRemark : String := "Remarked by 上月 FN"
def financeRequestRemark : String := "Remarked by 上月 FN PR"

/-! Derived accounting fields. -/

def fileDate : String := "檔案日期"
def accrualFlag : String := "是否估計入帳"
def prepaidFlag : String := "是否有預付"
def accountCode : String := "Account code"
def accountName : String := "Account Name"
def bookedProductCode : String := "Product code"
def region : String := "Region_c"
def bookedDepartment : String := "Dep."
def bookedCurrency : String := "Currency_c"
def accrualAmount : String := "Accr. Amount"
def liability : String := "Liability"
def productCodeCheck : String := "PR Product Code Check"

/-! The closing list. -/

def closingRequest : String := "new_pr_no"
def closingDone : String := "done_by_fn"
def closingOrder : String := "po_no"

/-! The reference data. -/

def referenceAccount : String := "Account"
def referenceDescription : String := "Account Desc"
def referenceLiability : String := "Liability"

end PurchaseStatus.Schema

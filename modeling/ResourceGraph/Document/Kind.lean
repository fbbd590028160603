/-
**The kinds of resources.**

A closed set of twelve kinds, each with the name that documents use. `Kind.ofName?` reads a name
back.
-/

import ResourceGraph.Text.Search

namespace ResourceGraph

/-- The kinds of resources. -/
inductive Kind where
  /-- A physical or logical location. -/
  | location
  /-- A product definition. -/
  | product
  /-- A managed system. -/
  | system
  /-- A tracked asset. -/
  | asset
  /-- A device under test. -/
  | dut
  /-- A test result. -/
  | testResult
  /-- A workflow definition. -/
  | workflow
  /-- A work item. -/
  | workItem
  /-- A work order. -/
  | workOrder
  /-- A data table. -/
  | dataTable
  /-- A stored file. -/
  | file
  /-- A notebook. -/
  | notebook
deriving DecidableEq, Repr, Inhabited

namespace Kind

/-- Every kind, in the order in which messages list them. -/
def all : List Kind :=
  [location, product, system, asset, dut, testResult, workflow, workItem, workOrder,
    dataTable, file, notebook]

/-- The name that documents use. -/
def name : Kind → String
  | location => "location"
  | product => "product"
  | system => "system"
  | asset => "asset"
  | dut => "dut"
  | testResult => "test_result"
  | workflow => "workflow"
  | workItem => "work_item"
  | workOrder => "work_order"
  | dataTable => "data_table"
  | file => "file"
  | notebook => "notebook"

/-- The kind of a name. -/
def ofName? (name : String) : Option Kind :=
  all.find? fun kind => kind.name == name

/-- What is said of a name that is no kind's. -/
def unsupportedMessage (name : String) : String :=
  "Unsupported resource type '" ++ name ++ "'. Expected one of: " ++
    Text.join ", " (all.map Kind.name)

end Kind

end ResourceGraph

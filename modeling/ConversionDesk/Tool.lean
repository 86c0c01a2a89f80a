/-!
# Conversion tools

The four tools of the desk, and what the server knows about them: endpoints, form fields,
output choices and file formats.

## Main definitions

* `Tool` — the tools, with their texts, endpoints and forms
* `FileFormat` — the formats the server writes
* `FileOutput` — where a tool that reads a spreadsheet sends its result
* `Field` — the names of form fields
-/

namespace ConversionDesk

/-- A conversion tool. -/
inductive Tool where
  | list
  | json
  | fromJson
  | clipboard
deriving DecidableEq, Repr

namespace Tool

/-- All tools, in the order of the menu. -/
def all : List Tool := [list, json, fromJson, clipboard]

/-- The name of the tool. -/
def title : Tool → String
  | list => "Column to List"
  | json => "Columns to JSON"
  | fromJson => "JSON to Table"
  | clipboard => "Clipboard Data"

/-- What the tool does, in a sentence. -/
def description : Tool → String
  | list => "Turn one column of an Excel or CSV file into a list."
  | json => "Export selected columns as JSON records."
  | fromJson => "Convert a JSON file of records into CSV or Excel."
  | clipboard => "Convert pasted table data, JSON or free text."

/-- The classes of the icon. -/
def icon : Tool → String
  | list => "fas fa-list"
  | json => "fas fa-code"
  | fromJson => "fas fa-table"
  | clipboard => "fas fa-clipboard"

/-- Where the form is sent. -/
def endpoint : Tool → String
  | list => "/convert/list"
  | json => "/convert/json"
  | fromJson => "/convert/from-json"
  | clipboard => "/convert/clipboard"

/-- The id of the form. -/
def formId : Tool → String
  | list => "list-form"
  | json => "json-form"
  | fromJson => "from-json-form"
  | clipboard => "clipboard-form"

end Tool

/-- Where a file is sent to have its columns listed. -/
def discoveryEndpoint : String := "/api/get-headers"

namespace Field

/-- The uploaded file. -/
def file : String := "file"

/-- The output choice of a tool that reads a spreadsheet. -/
def output : String := "output_method"

/-- The format of the table made from JSON. -/
def tableFormat : String := "output_format"

/-- The pasted text. -/
def pasted : String := "data"

/-- The action on the pasted text. -/
def action : String := "action"

end Field

/-- A file format that the server writes. -/
inductive FileFormat where
  | markdown
  | csv
  | xlsx
  | xls
deriving DecidableEq, Repr

namespace FileFormat

/-- The submitted name of the format. -/
def value : FileFormat → String
  | markdown => "md"
  | csv => "csv"
  | xlsx => "xlsx"
  | xls => "xls"

/-- The shown name of the format. -/
def label : FileFormat → String
  | markdown => "Markdown (.md)"
  | csv => "CSV (.csv)"
  | xlsx => "Excel (.xlsx)"
  | xls => "Excel 97-2003 (.xls)"

/-- The formats of a table made from JSON. -/
def tables : List FileFormat := [csv, xlsx, xls]

end FileFormat

/-- Where a tool that reads a spreadsheet sends its result. -/
inductive FileOutput where
  | file
  | display
  /-- Into a new column of the uploaded table. -/
  | addToTable
deriving DecidableEq, Repr

namespace FileOutput

/-- The submitted name of the choice. -/
def value : FileOutput → String
  | file => "file"
  | display => "display"
  | addToTable => "add_to_table"

/-- The shown name of the choice. -/
def label : FileOutput → String
  | file => "Download as file"
  | display => "Display on page"
  | addToTable => "Add JSON column to table"

end FileOutput

end ConversionDesk

/-!
Records of text fields, one to a line, with commas between the fields. A field is put between
quotes only if it holds a comma, a quote or a line break, and its quotes are then doubled.
-/

namespace RunTable.Csv

def needsQuotes (c : Char) : Bool := c == ',' || c == '"' || c == '\n' || c == '\r'

def doubleQuotes : List Char → List Char
  | [] => []
  | c :: rest => if c = '"' then '"' :: '"' :: doubleQuotes rest else c :: doubleQuotes rest

def writeField (field : List Char) : List Char :=
  if field.any needsQuotes then '"' :: doubleQuotes field ++ ['"'] else field

/-- The written form of fields, with commas between them. -/
def writeFields : List (List Char) → List Char
  | [] => []
  | [field] => writeField field
  | field :: rest => writeField field ++ ',' :: writeFields rest

/-- The written form of records, each ended by a line break. -/
def writeRecords (records : List (List (List Char))) : List Char :=
  records.flatMap fun fields => writeFields fields ++ ['\n']

def fieldText (s : String) : String := String.ofList (writeField s.toList)

def text (records : List (List String)) : String :=
  String.ofList (writeRecords (records.map fun fields => fields.map String.toList))

end RunTable.Csv

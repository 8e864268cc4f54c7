/-!
# Consoles

What an operator types and sees: lines, questions, QR codes and tables.
-/

namespace ChatTriage

/-- One thing that a console shows beside its output: a question, or a QR code being drawn. -/
inductive Prompt where
  | question (text : String)
  | qrBorder (size : Nat)
  | qrData (text : String)
  | qrFit
  | qrInverted
  deriving DecidableEq, Repr

/-- The side on which a column of a table is aligned. -/
inductive Side where
  | left
  | right
  deriving DecidableEq, Repr

/-- A table that is shown on a console: its title, the heads of its columns and the rows. -/
structure Table where
  title : String
  columns : List (String × Side)
  rows : List (List String)
  deriving DecidableEq, Repr

/-- One piece of a console's output: a line, or a title drawn large. -/
inductive Output where
  | line (text : String)
  | banner (title : String)
  deriving DecidableEq, Repr

/-- A console: the lines still to be typed, what was asked, the output and the tables shown. -/
structure Console where
  lines : List String := []
  prompts : List Prompt := []
  output : List Output := []
  tables : List Table := []
  deriving DecidableEq, Repr

namespace Console

/-- Prints a line. -/
def print (c : Console) (line : String) : Console :=
  { c with output := c.output ++ [.line line] }

/-- Draws a title. -/
def banner (c : Console) (title : String) : Console :=
  { c with output := c.output ++ [.banner title] }

/-- Shows a prompt. -/
def prompt (c : Console) (p : Prompt) : Console :=
  { c with prompts := c.prompts ++ [p] }

/-- Shows a table. -/
def display (c : Console) (t : Table) : Console :=
  { c with tables := c.tables ++ [t] }

end Console

end ChatTriage

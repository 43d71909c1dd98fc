import RadioLink.CommandLine.Form

/-!
The pages that tell how to use the program: one for the program and one for each command. A page
says what for, gives the shape of a command line, and lists names in a column beside their meaning.
-/

set_option autoImplicit false

namespace RadioLink.CommandLine

private def bracketed (name : String) : String := "<" ++ name ++ ">"

/-- How an option is written, indented as if each had a letter. -/
private def Switch.label (s : Switch) : String :=
  (match s.short with
    | some c => "-" ++ c.toString ++ ", "
    | none => "    ") ++
  "--" ++ s.long ++
  (match s.value with
    | some value => " " ++ bracketed value
    | none => "")

/-- A heading, and names in a column beside their meaning. -/
private def column (heading : String) (entries : List (String × String)) : String :=
  let width := (entries.map (·.1.length)).foldl max 0
  let line (entry : String × String) : String :=
    "  " ++ entry.1 ++ String.ofList (List.replicate (width - entry.1.length) ' ') ++ "  " ++
      entry.2 ++ "\n"
  heading ++ ":\n" ++ String.join (entries.map line)

/-- The option that asks for a page, which every command knows. -/
private def helpSwitch : Switch := ⟨"help", some 'h', none, "Print help"⟩

private def optionColumn (switches : List Switch) : String :=
  column "Options" ((switches ++ [helpSwitch]).map fun s => (s.label, s.help))

/-- A page: what for, the shape of a command line, and lists. -/
private def pageOf (about : String) (shape : List String) (columns : List String) : String :=
  about ++ "\n\nUsage: " ++ " ".intercalate (programName :: shape) ++ "\n\n" ++
    "\n".intercalate columns

def programPage : String :=
  let help := ("help", "Print this message or the help of the given subcommand(s)")
  pageOf programAbout ["[OPTIONS]", "<COMMAND>"]
    [column "Commands" (forms.map (fun f => (f.name, f.about)) ++ [help]),
     optionColumn commonSwitches]

def Form.page (f : Form) : String :=
  let operands := f.operands.map fun (name, meaning) => (bracketed name, meaning)
  pageOf f.about
    (f.name :: (if f.switches.isEmpty then [] else ["[OPTIONS]"]) ++ operands.map (·.1))
    ((if operands.isEmpty then [] else [column "Arguments" operands]) ++
      [optionColumn f.switches])

end RadioLink.CommandLine

import MerchantApi.CommandLine.Command
import MerchantApi.CommandLine.HeaderMapping
import MerchantApi.Text.Integer
/-!
# Reading arguments

Two words name a command; behind them stand its options and operands in any
order.  A value is checked when the next option or operand begins, or at the
end, so that of several things wrong with the arguments the first one counts.
-/

namespace MerchantApi.CommandLine

/-! ### Arguments -/

inductive Token where
  | escape
  | long (name : List Char) (value : Option (List Char))
  | short (letters : List Char)
  | word
deriving DecidableEq

def Token.ofChars : List Char → Token
  | ['-', '-'] => .escape
  | '-' :: '-' :: cs =>
    match splitEquals? cs with
    | some (name, value) => .long name (some value)
    | none => .long cs none
  | '-' :: c :: cs => .short (c :: cs)
  | _ => .word

def Token.ofText (s : String) : Token := .ofChars s.toList

/-! ### Rules -/

structure Draft where
  file : Option String
  fields : List String
  ids : List UInt64
  page : Option Page
  search : Option String
  headers : List (String × String)

def Draft.empty : Draft := ⟨none, [], [], none, none, []⟩

abbrev Store := Draft → String → Except UsageError Draft

structure OptionRule where
  long : String
  short : Option Char
  store : Store

inductive OperandRule where
  | none
  | one (store : Store)
  | many (store : Store)

structure Rules where
  options : List OptionRule
  operands : OperandRule
  command? : Draft → Option Command

def storeFile : Store := fun d s =>
  if s.isEmpty then .error .missingValue else .ok { d with file := some s }

def storeField : Store := fun d s => .ok { d with fields := d.fields ++ [s] }

def storeId : Store := fun d s =>
  match Text.natural UInt64.size s with
  | .ok n => .ok { d with ids := d.ids ++ [UInt64.ofNat n] }
  | .error fault => .error (.refusedValue fault.message)

def storePage : Store := fun d s =>
  if d.page.isSome then .error .repeatedOption
  else
    match Text.natural (Page.last + 1) s with
    | .ok n =>
      match Page.ofNumber? n with
      | some page => .ok { d with page := some page }
      | none => .error (.refusedValue Text.IntegerFault.zero.message)
    | .error fault => .error (.refusedValue fault.message)

def storeSearch : Store := fun d s =>
  if d.search.isSome then .error .repeatedOption else .ok { d with search := some s }

def storeHeader : Store := fun d s =>
  match headerMapping? s with
  | some entry => .ok { d with headers := d.headers ++ [entry] }
  | none => .error (.refusedValue ("expected HEADER=FIELD, got '" ++ s ++ "'"))

def groups : List (String × List (String × Rules)) :=
  [ ("mappings",
      [ ("list", ⟨[], .none, fun _ => some .listMappings⟩),
        ("save", ⟨[], .one storeFile, fun d => d.file.map .saveMappings⟩),
        ("delete-fields", ⟨[], .many storeField, fun d =>
          if d.fields.isEmpty then none else some (.deleteFields d.fields)⟩) ]),
    ("merchants",
      [ ("list",
          ⟨[⟨"page", none, storePage⟩, ⟨"search", some 's', storeSearch⟩], .none, fun d =>
            some (.listMerchants (d.page.getD .all) d.search)⟩),
        ("delete", ⟨[], .many storeId, fun d =>
          if d.ids.isEmpty then none else some (.deleteMerchants d.ids)⟩),
        ("import", ⟨[⟨"map", none, storeHeader⟩], .one storeFile, fun d =>
          d.file.map fun file => .importMerchants file d.headers⟩) ]) ]

/-! ### Options and operands -/

/-- Values that have been read but not been checked: those of an option, which
may still wait for its value, or of operands. -/
inductive Pending where
  | nothing
  | option (store : Store) (value : Option String)
  | operands (store : Store) (values : List String)

structure Scan where
  draft : Draft
  pending : Pending
  operands : Nat
  escaped : Bool

def Scan.start : Scan := ⟨.empty, .nothing, 0, false⟩

abbrev Step := Except Interruption Scan

def misuse {α : Type} (e : UsageError) : Except Interruption α := .error (.misuse e)

def Scan.settle (s : Scan) : Step :=
  match s.pending with
  | .nothing => .ok s
  | .option _ none => misuse .missingValue
  | .option store (some value) =>
    ((store s.draft value).mapError .misuse).map fun d => { s with draft := d, pending := .nothing }
  | .operands store values =>
    ((values.foldlM store s.draft).mapError .misuse).map fun d =>
      { s with draft := d, pending := .nothing }

def Scan.beginOption (s : Scan) (store : Store) (value : Option (List Char)) : Step := do
  let s ← s.settle
  let s := { s with pending := .option store (value.map String.ofList) }
  if value.isSome then s.settle else return s

def Scan.stop (s : Scan) (why : Interruption) : Step := do
  let _ ← s.settle
  .error why

def Scan.operand (s : Scan) (rule : OperandRule) (value : String) : Step :=
  let start (store : Store) : Step := do
    let s ← s.settle
    return { s with pending := .operands store [value], operands := s.operands + 1 }
  match rule with
  | .none => misuse .unknownArgument
  | .one store => if s.operands = 0 then start store else misuse .unknownArgument
  | .many store =>
    match s.pending with
    | .operands store values => return { s with pending := .operands store (values ++ [value]) }
    | _ => start store

/-- Read letters behind a dash; all behind an option with a value are its value. -/
def Scan.letters (s : Scan) (rules : Rules) : List Char → Step
  | [] => .ok s
  | c :: rest =>
    if c = 'h' then s.stop .help
    else
      match rules.options.find? fun o => o.short = some c with
      | none => misuse .unknownArgument
      | some o =>
        match rest with
        | [] => s.beginOption o.store none
        | '=' :: value => s.beginOption o.store (some value)
        | value => s.beginOption o.store (some value)

def Scan.read (rules : Rules) (s : Scan) (arg : String) : Step :=
  let word : Step :=
    match s.pending with
    | .option store none => return { s with pending := .option store (some arg) }
    | _ => s.operand rules.operands arg
  if s.escaped then s.operand rules.operands arg
  else
    match Token.ofText arg with
    | .escape => return { s with escaped := true }
    | .long name value =>
      if name = "help".toList then
        if value.isSome then misuse .surplusValue else s.stop .help
      else
        match rules.options.find? fun o => o.long.toList = name with
        | some o => s.beginOption o.store value
        | none => misuse .unknownArgument
    | .short letters => s.letters rules letters
    | .word => word

def Rules.read (rules : Rules) (args : List String) : Except Interruption Command := do
  let s ← args.foldlM (Scan.read rules) .start
  let s ← s.settle
  match rules.command? s.draft with
  | some command => return command
  | none => misuse .missingArgument

/-! ### Words -/

inductive Choice (α : Type) where
  | word (chosen : α) (rest : List String)
  | help (topics : List String)

def under? {α : Type} (entries : List (String × α)) (word : String) : Option α :=
  (entries.find? fun e => e.1 = word).map Prod.snd

/-- Choose by the first argument.  Only the first choice knows the version. -/
def choose {α : Type} (entries : List (String × α)) (knowsVersion : Bool) :
    List String → Except Interruption (Choice α)
  | [] => misuse .noCommand
  | arg :: rest =>
    if arg = "help" then .ok (.help rest)
    else
      match under? entries arg with
      | some chosen => .ok (.word chosen rest)
      | none =>
        match Token.ofText arg with
        | .escape =>
          match rest with
          | [] => misuse .noCommand
          | next :: _ =>
            if next = "help" ∨ (under? entries next).isSome then misuse .unknownArgument
            else misuse .unknownCommand
        | .long name value =>
          if name = "help".toList ∨ (knowsVersion ∧ name = "version".toList) then
            if value.isSome then misuse .surplusValue
            else .error (if name = "help".toList then .help else .version)
          else misuse .unknownArgument
        | .short letters =>
          match letters.head? with
          | some 'h' => .error .help
          | some 'V' => if knowsVersion then .error .version else misuse .unknownArgument
          | _ => misuse .unknownArgument
        | .word => misuse .unknownCommand

def helpOn {α : Type} (entries : List (String × α)) : List String → Interruption
  | [] => .help
  | [topic] =>
    if topic = "help" ∨ (under? entries topic).isSome then .help else .misuse .unknownCommand
  | _ => .misuse .unknownCommand

def helpOnGroup : List String → Interruption
  | [] => .help
  | topic :: rest =>
    match under? groups topic with
    | some commands => helpOn commands rest
    | none => helpOn groups (topic :: rest)

def parse (args : List String) : Except Interruption Command := do
  match ← choose groups true args with
  | .help topics => .error (helpOnGroup topics)
  | .word commands rest =>
    match ← choose commands false rest with
    | .help topics => .error (helpOn commands topics)
    | .word rules rest => rules.read rest

end MerchantApi.CommandLine

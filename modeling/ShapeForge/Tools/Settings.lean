import ShapeForge.Cache
import ShapeForge.Config.Value
import ShapeForge.Duration
import ShapeForge.Emit.Plan
import ShapeForge.Listing

/-!
# Settings of the tools

The tools are set up by environment variables.  A variable that cannot be read, or whose number
is not positive where it has to be, leaves the default.
-/

namespace ShapeForge.Tools

structure Settings where
  cacheEnabled : Bool := true
  cacheSize : Nat := Cache.usualCapacity
  fileLife : Duration := ⟨15 * Duration.minute⟩
  contentLife : Duration := ⟨15 * Duration.minute⟩
  sweepInterval : Duration := ⟨Duration.minute⟩
  limits : Listing.Limits := {}
  /-- The greatest size of a model that is passed as text, in bytes. -/
  inlineLimit : Nat := 10485760
  seed : Nat := 1
  listSize : Nat := 5
  policy : Emit.ServicePolicy := .multiple
  strict : Bool := false

namespace Settings

/-- A number without the point and the digits behind it; a missing number in front of them
is zero. -/
def withoutFraction (text : String) : String :=
  let (sign, rest) := match text.toList with
    | '-' :: rest => (['-'], rest)
    | '+' :: rest => (['+'], rest)
    | rest => ([], rest)
  let (digits, rest) := rest.span Char.isDigit
  let isNumber := match rest with
    | [] => true
    | c :: fraction => c == '.' && fraction.all Char.isDigit
  if isNumber then String.ofList (sign ++ if digits.isEmpty then ['0'] else digits) else text

def positive? (text : String) : Option Nat :=
  ((Numeral.int64? (withoutFraction text)).filter (0 < ·)).map Int.toNat

def word? (text : String) : Option Nat :=
  Numeral.nat64? (String.ofList ((withoutFraction text).toList.dropWhile (· == '+')))

/-- A positive length of time; a number without unit counts nanoseconds. -/
def duration? (text : String) : Option Duration :=
  let hasUnit := text.toList.any fun c => "nsuµmh".toList.contains c
  (Duration.parse? (if hasUnit then text else text ++ "ns")).filter (0 < ·.nanoseconds)

def variableLead : String := "SMITHYGEN_MCP_"

/-- The value of a variable, or the default if it is empty or cannot be read. -/
def read {α : Type} (environment : List (String × String)) (name : String) (default : α)
    (convert : String → Option α) : α :=
  match (environment.find? (·.1 == variableLead ++ name)).filter (!·.2.isEmpty) with
  | some (_, text) => (convert text).getD default
  | none => default

def ofEnvironment (environment : List (String × String)) : Settings :=
  let defaults : Settings := {}
  { cacheEnabled := read environment "CACHE_ENABLED" defaults.cacheEnabled ConfigValue.truth?
    cacheSize := read environment "CACHE_MAX_SIZE" defaults.cacheSize positive?
    fileLife := read environment "CACHE_FILE_TTL" defaults.fileLife duration?
    contentLife := read environment "CACHE_CONTENT_TTL" defaults.contentLife duration?
    sweepInterval := read environment "CACHE_SWEEP_INTERVAL" defaults.sweepInterval duration?
    limits :=
      { usual := read environment "LIST_LIMIT" defaults.limits.usual positive?
        greatest := read environment "MAX_LIMIT" defaults.limits.greatest positive? }
    inlineLimit := read environment "MAX_INLINE_SIZE" defaults.inlineLimit positive?
    seed := read environment "MOCK_SEED" defaults.seed word?
    listSize := read environment "MOCK_LIST_SIZE" defaults.listSize positive?
    policy := read environment "SERVICE_POLICY" defaults.policy
      fun text => (Emit.ServicePolicy.parse text).toOption
    strict := read environment "STRICT" defaults.strict ConfigValue.truth? }

end Settings

end ShapeForge.Tools

import GpuFractioning.Lib.GoDuration

/-!
# Command line flags

Flag sets of the Go package `flag` over a configuration of any type, and the
rules by which arguments that were rendered one after the other are read one
after the other.
-/

namespace GoFlag

/-- A flag: its name, whether it may stand without a value, and what a value sets. A value
that is not accepted sets nothing. -/
structure Flag (σ : Type) where
  name : String
  isBool : Bool
  set : String → σ → Option σ

section Variables

variable {σ : Type}

def Flag.stringVar (name : String) (put : String → σ → σ) : Flag σ :=
  ⟨name, false, fun value s => some (put value s)⟩

def Flag.boolVar (name : String) (put : Bool → σ → σ) : Flag σ :=
  ⟨name, true, fun value s => (GoStrconv.parseBool value).map (put · s)⟩

def Flag.intVar (name : String) (put : ℤ → σ → σ) : Flag σ :=
  ⟨name, false, fun value s => (GoStrconv.parseIntBaseZero value).map (put · s)⟩

def Flag.durationVar (name : String) (put : ℤ → σ → σ) : Flag σ :=
  ⟨name, false, fun value s => (GoDuration.parseDuration value).map (put · s)⟩

end Variables

section Parse

/-- How an argument is taken before the flags are known. -/
inductive Token where
  | positional
  | terminator
  | badSyntax
  | flag (name : String) (value : Option String)
  deriving DecidableEq, Repr

/-- What follows the dashes: a name, and a value behind the first equals sign. -/
def readFlag (body : List Char) : Token :=
  if body.head? = none ∨ body.head? = some '-' ∨ body.head? = some '=' then .badSyntax
  else
    match body.dropWhile (· ≠ '=') with
    | [] => .flag (String.ofList body) none
    | _ :: value => .flag (String.ofList (body.takeWhile (· ≠ '='))) (some (String.ofList value))

def token (arg : String) : Token :=
  match arg.toList with
  | ['-', '-'] => .terminator
  | '-' :: '-' :: body => readFlag body
  | '-' :: c :: body => readFlag (c :: body)
  | _ => .positional

inductive ParseError where
  | badSyntax (arg : String)
  | help
  | undefined (name : String)
  | needsArgument (name : String)
  | invalidValue (value name : String)
  deriving DecidableEq, Repr

variable {σ : Type}

/-- `FlagSet.Parse`: the configuration that the flags leave, and the arguments after them. -/
def parse (flags : List (Flag σ)) : List String → σ → Except ParseError (σ × List String)
  | [], s => .ok (s, [])
  | arg :: rest, s =>
    match token arg with
    | .positional => .ok (s, arg :: rest)
    | .terminator => .ok (s, rest)
    | .badSyntax => .error (.badSyntax arg)
    | .flag name value =>
      match flags.find? fun f => f.name = name with
      | none => .error (if name = "help" ∨ name = "h" then .help else .undefined name)
      | some f =>
        if f.isBool then
          match f.set (value.getD "true") s with
          | none => .error (.invalidValue (value.getD "true") name)
          | some s' => parse flags rest s'
        else
          match value with
          | some v =>
            match f.set v s with
            | none => .error (.invalidValue v name)
            | some s' => parse flags rest s'
          | none =>
            match rest with
            | [] => .error (.needsArgument name)
            | v :: rest' =>
              match f.set v s with
              | none => .error (.invalidValue v name)
              | some s' => parse flags rest' s'

end Parse

section Reads

variable {σ : Type} {flags : List (Flag σ)}

/-- The arguments are read as the update `f`, whatever follows them. -/
def Reads (flags : List (Flag σ)) (args : List String) (f : σ → σ) : Prop :=
  ∀ rest s, parse flags (args ++ rest) s = parse flags rest (f s)

theorem Reads.nil : Reads flags [] id := fun _ _ => rfl

theorem Reads.append {args args' : List String} {f f' : σ → σ} (h : Reads flags args f)
    (h' : Reads flags args' f') : Reads flags (args ++ args') (f' ∘ f) := by
  intro rest s
  rw [List.append_assoc, h, h']
  rfl

theorem Reads.parse {args : List String} {f : σ → σ} (h : Reads flags args f) (s : σ) :
    parse flags args s = .ok (f s, []) := by
  rw [← List.append_nil args, h]
  rfl

theorem reads_assigned {arg name value : String} {flag : Flag σ} {f : σ → σ}
    (htoken : token arg = .flag name (some value))
    (hflag : flags.find? (fun f => f.name = name) = some flag)
    (hset : ∀ s, flag.set value s = some (f s)) : Reads flags [arg] f := by
  intro rest s
  rw [List.singleton_append, parse]
  simp only [htoken, hflag, Option.getD_some, hset, ite_self]

/-- A flag whose value is the next argument, whatever that looks like. -/
theorem reads_separate {arg name value : String} {flag : Flag σ} {f : σ → σ}
    (htoken : token arg = .flag name none)
    (hflag : flags.find? (fun f => f.name = name) = some flag) (hbool : flag.isBool = false)
    (hset : ∀ s, flag.set value s = some (f s)) : Reads flags [arg, value] f := by
  intro rest s
  rw [List.cons_append, List.singleton_append, parse]
  simp only [htoken, hflag, hbool, Bool.false_eq_true, if_false, hset]

theorem reads_switch {arg name : String} {flag : Flag σ} {f : σ → σ}
    (htoken : token arg = .flag name none)
    (hflag : flags.find? (fun f => f.name = name) = some flag) (hbool : flag.isBool = true)
    (hset : ∀ s, flag.set "true" s = some (f s)) : Reads flags [arg] f := by
  intro rest s
  rw [List.singleton_append, parse]
  simp only [htoken, hflag, hbool, if_true, Option.getD_none, hset]

end Reads

end GoFlag

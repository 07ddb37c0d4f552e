import WikiQuery.Error
import WikiQuery.Toml.Reading

/- Limits and dialect of the wiki that answers queries. -/
set_option autoImplicit false

namespace WikiQuery

-- How `group_by` and `having` speak of a projected term: by its columns or by its output name.
inductive Naming where
  | qualified
  | outputName
deriving DecidableEq

structure Provider where
  maxLimit : UInt64
  naming : Naming
deriving DecidableEq

namespace Provider

def defaultMaxLimit : UInt64 := 5000

def standard : Provider := ⟨defaultMaxLimit, .qualified⟩

def limit? : Toml → Option UInt64
  | .integer i => if 0 ≤ i ∧ i < UInt64.size then some (UInt64.ofNat i.toNat) else none
  | _ => none

def namingOf? (word : String) : Option Naming :=
  if word = "qualified" then some .qualified
  else if word = "output_alias" then some .outputName
  else none

def naming? : Toml → Option Naming
  | .text word => namingOf? word
  | .table _ [(word, .table _ [])] => namingOf? word
  | .table _ [(word, .array [])] => namingOf? word
  | _ => none

/-- The settings of a TOML document. Missing ones keep their standard values, and members with
other names are passed over. -/
def ofToml (text : String) : Except QueryError Provider :=
  match Toml.read text with
  | none => .error .badSettings
  | some members =>
      let limit := match members.lookup "max_limit" with
        | none => some defaultMaxLimit
        | some value => limit? value
      let naming := match members.lookup "alias_resolution" with
        | none => some Naming.qualified
        | some value => naming? value
      match limit, naming with
      | some limit, some naming => .ok ⟨limit, naming⟩
      | _, _ => .error .badSettings

end Provider

end WikiQuery

/- Powers of the two bases of number text. -/
set_option autoImplicit false

namespace WikiQuery

def pow2 (n : Nat) : Nat := Nat.pow 2 n
def pow10 (n : Nat) : Nat := Nat.pow 10 n

end WikiQuery

import MockHttp.Http.Header

/-! # Responses -/

namespace MockHttp

/-- Legal codes have three digits. -/
def IsStatusCode (code : Nat) : Prop := 100 ≤ code ∧ code ≤ 999

instance (code : Nat) : Decidable (IsStatusCode code) := inferInstanceAs (Decidable (_ ∧ _))

structure Response where
  status : Nat
  headers : Headers := ∅
  body : Bytes := []

namespace Response

def notFound : Response := { status := 404 }

end Response

end MockHttp

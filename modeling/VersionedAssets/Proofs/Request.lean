import VersionedAssets.Proofs.Fields
import VersionedAssets.Request

/-! # Headers among the variables of a server

Each variable writes at most one header, so leaving out the variables of one header takes that
header away and nothing else. What a request says besides its headers comes from variables that
stand for none. The variable for the method is one of them and tells nothing else.
-/

namespace VersionedAssets.Environ

variable {environ : Environ} {name other : String}

/-- The variables without those that stand for a header. -/
def withoutHeader (environ : Environ) (name : String) : Environ :=
  ⟨environ.entries.filter fun entry => headerName? entry.1 != some name⟩

theorem getD_withoutHeader {variableName : String} (hvariable : headerName? variableName = none)
    (environ : Environ) (name fallback : String) :
    (environ.withoutHeader name).getD variableName fallback =
      environ.getD variableName fallback := by
  have hkept : (headerName? variableName != some name) = true := by
    rw [hvariable]
    rfl
  exact congrArg (Option.getD · fallback)
    (Fields.lookup_filter (p := fun key => headerName? key != some name) hkept environ.entries)

theorem get?_addHeader (headers : Fields String) (entry : String × String) (name : String) :
    (addHeader headers entry).get? name =
      if headerName? entry.1 = some name then some entry.2 else headers.get? name := by
  unfold addHeader
  cases hentry : headerName? entry.1 with
  | none => simp
  | some written =>
      dsimp only
      rw [Fields.get?_put]
      by_cases hname : name = written
      · simp [hname]
      · rw [if_neg hname, if_neg (fun heq => hname (Option.some.inj heq).symm)]

/-- The variables of a header write no other header. -/
theorem get?_foldl_addHeader_of_ne (hother : other ≠ name) (entries : List (String × String))
    {first second : Fields String} (hstart : first.get? other = second.get? other) :
    ((entries.filter fun entry => headerName? entry.1 != some name).foldl addHeader first).get?
        other =
      (entries.foldl addHeader second).get? other := by
  induction entries generalizing first second with
  | nil => exact hstart
  | cons entry rest ih =>
      by_cases hentry : headerName? entry.1 = some name
      · -- the variable is left out on one side, and on the other it writes under `name`
        have hskipped : (addHeader second entry).get? other = second.get? other := by
          rw [get?_addHeader, hentry, if_neg]
          exact fun heq => hother (Option.some.inj heq).symm
        simp only [List.filter_cons, hentry, bne_self_eq_false, Bool.false_eq_true, if_false,
          List.foldl_cons]
        exact ih (hstart.trans hskipped.symm)
      · have hwritten : (addHeader first entry).get? other =
            (addHeader second entry).get? other := by
          rw [get?_addHeader, get?_addHeader, hstart]
        simp only [List.filter_cons, bne_iff_ne, ne_eq, hentry, not_false_eq_true, if_true,
          List.foldl_cons]
        exact ih hwritten

/-- No other variable writes the header. -/
theorem get?_foldl_addHeader_self (entries : List (String × String)) (headers : Fields String) :
    ((entries.filter fun entry => headerName? entry.1 != some name).foldl addHeader headers).get?
        name =
      headers.get? name := by
  induction entries generalizing headers with
  | nil => rfl
  | cons entry rest ih =>
      by_cases hentry : headerName? entry.1 = some name
      · simp only [List.filter_cons, hentry, bne_self_eq_false, Bool.false_eq_true, if_false]
        exact ih headers
      · simp only [List.filter_cons, bne_iff_ne, ne_eq, hentry, not_false_eq_true, if_true,
          List.foldl_cons]
        rw [ih, get?_addHeader, if_neg hentry]

theorem get?_addNonEmpty (environ : Environ) (variableName written : String)
    (headers : Fields String) (name : String) :
    (environ.addNonEmpty variableName written headers).get? name =
      if name = written ∧ (environ.getD variableName "").isEmpty = false then
        some (environ.getD variableName "")
      else headers.get? name := by
  unfold addNonEmpty
  cases hempty : (environ.getD variableName "").isEmpty with
  | true => simp [hempty]
  | false => simp [hempty, Fields.get?_put]

theorem get?_headers_of_ne (hother : other ≠ name) (environ : Environ) :
    (environ.withoutHeader name).headers.get? other = environ.headers.get? other := by
  have htype :=
    getD_withoutHeader (by decide +kernel : headerName? "CONTENT_TYPE" = none) environ name
  have hlength :=
    getD_withoutHeader (by decide +kernel : headerName? "CONTENT_LENGTH" = none) environ name
  have hwritten : ((environ.withoutHeader name).entries.foldl addHeader Fields.empty).get? other =
      (environ.entries.foldl addHeader Fields.empty).get? other :=
    get?_foldl_addHeader_of_ne hother environ.entries rfl
  simp only [headers, get?_addNonEmpty, htype, hlength, hwritten]

theorem get?_headers_self (htype : name ≠ "content-type") (hlength : name ≠ "content-length")
    (environ : Environ) : (environ.withoutHeader name).headers.get? name = none := by
  simp only [headers, get?_addNonEmpty, htype, hlength, false_and, if_false]
  exact get?_foldl_addHeader_self environ.entries Fields.empty

/-! ## Setting the method -/

/-- The variable that holds the method. -/
def methodVariable : String := "REQUEST_METHOD"

/-- The variables with another method. -/
def withMethod (environ : Environ) (method : String) : Environ :=
  Fields.put environ methodVariable method

theorem getD_withMethod_of_ne (hother : other ≠ methodVariable) (environ : Environ)
    (method fallback : String) :
    (environ.withMethod method).getD other fallback = environ.getD other fallback := by
  rw [getD, withMethod, Fields.get?_put, if_neg hother]
  rfl

/-- The variable for the method writes no header. -/
theorem foldl_addHeader_putEntry (method : String) (entries : List (String × String))
    (headers : Fields String) :
    (Fields.putEntry methodVariable method entries).foldl addHeader headers =
      entries.foldl addHeader headers := by
  have hname : headerName? methodVariable = none := by decide +kernel
  have hskipped (value : String) (headers : Fields String) :
      addHeader headers (methodVariable, value) = headers := by
    rw [addHeader, hname]
  induction entries generalizing headers with
  | nil => exact hskipped method headers
  | cons entry rest ih =>
      obtain ⟨key, old⟩ := entry
      by_cases hkey : key = methodVariable
      · subst hkey
        simp only [Fields.putEntry, if_true, List.foldl_cons, hskipped]
      · simp only [Fields.putEntry, hkey, if_false, List.foldl_cons, ih]

theorem headers_withMethod (environ : Environ) (method : String) :
    (environ.withMethod method).headers = environ.headers := by
  have htype := getD_withMethod_of_ne (by decide : "CONTENT_TYPE" ≠ methodVariable) environ method
  have hlength :=
    getD_withMethod_of_ne (by decide : "CONTENT_LENGTH" ≠ methodVariable) environ method
  have hentries : (environ.withMethod method).entries.foldl addHeader Fields.empty =
      environ.entries.foldl addHeader Fields.empty := foldl_addHeader_putEntry method _ _
  simp only [headers, addNonEmpty, htype, hlength, hentries]

/-- A request with another method is otherwise the same. -/
theorem ofEnviron_withMethod (environ : Environ) (method : String) :
    Request.ofEnviron (environ.withMethod method) =
      { Request.ofEnviron environ with method := Text.upper method } := by
  have hmethod : (environ.withMethod method).getD "REQUEST_METHOD" "GET" = method := by
    have hsame : "REQUEST_METHOD" = methodVariable := rfl
    rw [getD, withMethod, Fields.get?_put, if_pos hsame]
    rfl
  have hother {other : String} (hother : other ≠ methodVariable) (fallback : String) :
      (environ.withMethod method).getD other fallback = environ.getD other fallback :=
    getD_withMethod_of_ne hother environ method fallback
  simp only [Request.ofEnviron, hmethod, headers_withMethod, path, clientPort,
    hother (by decide : "PATH_INFO" ≠ methodVariable),
    hother (by decide : "SERVER_PROTOCOL" ≠ methodVariable),
    hother (by decide : "QUERY_STRING" ≠ methodVariable),
    hother (by decide : "REMOTE_ADDR" ≠ methodVariable),
    hother (by decide : "REMOTE_PORT" ≠ methodVariable)]

end VersionedAssets.Environ

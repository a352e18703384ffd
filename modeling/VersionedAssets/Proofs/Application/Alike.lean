import VersionedAssets.Proofs.Application.Dispatch
import VersionedAssets.Proofs.Request

/-! # What answers look at

The handlers of an application look at the path of a request and at what its validators say, and
only whether its method is one for reading. Layers of access records look at the program of the
client besides, and at no other header. So a date that cannot be read leaves the same answer, the
same records and the same streams as no date.
-/

namespace VersionedAssets

/-- The requests differ at most in headers that answers do not look at. -/
structure Request.Alike (first second : Request) : Prop where
  method_eq : second.method = first.method
  path_eq : second.path = first.path
  query_eq : second.query = first.query
  params_eq : second.params = first.params
  clientAddress_eq : second.clientAddress = first.clientAddress
  userAgent_eq : second.userAgent = first.userAgent
  isModified_eq : ∀ tag lastModified,
    CachePolicy.isModified second tag lastModified = CachePolicy.isModified first tag lastModified

/-- The requests are the same to handlers. -/
structure Request.AlikeInside (first second : Request) : Prop where
  path_eq : second.path = first.path
  params_eq : second.params = first.params
  isReadable_eq : Application.methods.contains second.method =
    Application.methods.contains first.method
  isConditional_eq : second.isConditional = first.isConditional
  isModified_eq : ∀ tag lastModified,
    CachePolicy.isModified second tag lastModified = CachePolicy.isModified first tag lastModified

namespace Request.AlikeInside

variable {first second : Request}

theorem requestedPath_eq (halike : first.AlikeInside second) (handler : Handler) :
    handler.requestedPath second = handler.requestedPath first := by
  rw [Handler.requestedPath, Handler.requestedPath, halike.params_eq, halike.path_eq]

theorem apply_eq (halike : first.AlikeInside second) (policy : CachePolicy) (lastModified : Int) :
    policy.apply second lastModified = policy.apply first lastModified := by
  have htext (tag : String) :
      CachePolicy.freshText second tag = CachePolicy.freshText first tag := by
    unfold CachePolicy.freshText
    rw [halike.path_eq]
  simp only [CachePolicy.apply, htext, halike.isModified_eq]
  rw [halike.isConditional_eq]

theorem streamResource_eq (halike : first.AlikeInside second) (handler : Handler)
    (location : Location) :
    handler.streamResource second location = handler.streamResource first location := by
  simp only [Handler.streamResource, halike.apply_eq]

theorem handleResource_eq (halike : first.AlikeInside second) (handler : Handler)
    (path : String) :
    handler.handleResource second path = handler.handleResource first path := by
  simp only [Handler.handleResource, halike.streamResource_eq]

theorem handle_eq (halike : first.AlikeInside second) (handler : Handler) :
    handler.handle second = handler.handle first := by
  simp only [Handler.handle, halike.handleResource_eq]
  rw [halike.requestedPath_eq]

theorem recover_eq (halike : first.AlikeInside second) :
    Application.recover second = Application.recover first := by
  funext response fault
  cases fault with
  | resource cause => simp only [Application.recover, Application.failureRecord, halike.path_eq]
  | _ => rfl

theorem dispatch_eq (halike : first.AlikeInside second) (app : Application) :
    app.dispatch second = app.dispatch first := by
  have hserve (handler : Handler) :
      Application.serveBy handler second = Application.serveBy handler first := by
    funext world
    simp only [Application.serveBy, halike.handle_eq, halike.recover_eq]
  simp only [Application.dispatch, halike.path_eq, halike.isReadable_eq, hserve]

end Request.AlikeInside

namespace Request.Alike

variable {first second : Request}

theorem isHead_eq (halike : first.Alike second) : second.isHead = first.isHead := by
  rw [isHead, isHead, halike.method_eq]

theorem inside (halike : first.Alike second) : first.AlikeInside second where
  path_eq := halike.path_eq
  params_eq := halike.params_eq
  isReadable_eq := by rw [halike.method_eq]
  isConditional_eq := by rw [isConditional, isConditional, halike.method_eq]
  isModified_eq := halike.isModified_eq

theorem attempt_eq (halike : first.Alike second) {inner : Responder}
    (hinner : inner second = inner first) (started : Float) :
    AccessLog.attempt inner second started = AccessLog.attempt inner first started := by
  have htext (fault : Fault) (duration : Float) :
      AccessLog.failureText second fault duration = AccessLog.failureText first fault duration := by
    unfold AccessLog.failureText
    rw [halike.method_eq, halike.path_eq]
  simp only [AccessLog.attempt, hinner, htext]

theorem record_eq (halike : first.Alike second) (log : AccessLog) :
    log.record second = log.record first := by
  have hentry : AccessLog.entry second = AccessLog.entry first := by
    funext response requestId duration timestamp
    simp only [AccessLog.entry, halike.method_eq, halike.path_eq, halike.query_eq,
      halike.clientAddress_eq, halike.userAgent_eq]
  funext response requestId duration
  rw [AccessLog.record, AccessLog.record, hentry]

theorem respond_eq (halike : first.Alike second) (log : AccessLog) {inner : Responder}
    (hinner : inner second = inner first) : log.respond inner second = log.respond inner first := by
  unfold AccessLog.respond
  simp only [halike.attempt_eq hinner, halike.record_eq]
  rw [halike.path_eq]

theorem wrap_eq (halike : first.Alike second) (logs : List AccessLog) {inner : Responder}
    (hinner : inner second = inner first) :
    Middleware.wrap (logs.map AccessLog.toMiddleware) inner second =
      Middleware.wrap (logs.map AccessLog.toMiddleware) inner first := by
  induction logs with
  | nil => exact hinner
  | cons log rest ih => exact halike.respond_eq log ih

end Request.Alike

namespace CachePolicy

/-- A date that cannot be read is as good as none. -/
theorem isModified_eq_of_undated {first second : Request}
    (htags : second.header "if-none-match" "" = first.header "if-none-match" "")
    (hfirst : HttpDate.read (first.header "if-modified-since" "") = .ok none)
    (hsecond : HttpDate.read (second.header "if-modified-since" "") = .ok none)
    (tag : String) (lastModified : Int) :
    isModified second tag lastModified = isModified first tag lastModified := by
  simp only [isModified, isNewByDate, htags, hfirst, hsecond]

end CachePolicy

/-- A request with a date that cannot be read is like the one without the date. -/
theorem Environ.alike_withoutHeader {environ : Environ}
    (hundated : HttpDate.read ((Request.ofEnviron environ).header "if-modified-since" "") =
      .ok none) :
    (Request.ofEnviron environ).Alike
      (Request.ofEnviron (environ.withoutHeader "if-modified-since")) where
  method_eq := congrArg Text.upper (getD_withoutHeader (by decide +kernel) _ _ _)
  path_eq := by
    have hpath := getD_withoutHeader (by decide +kernel : headerName? "PATH_INFO" = none) environ
      "if-modified-since" ""
    simp only [Request.ofEnviron, path, hpath]
  query_eq := congrArg Query.read (getD_withoutHeader (by decide +kernel) _ _ _)
  params_eq := rfl
  clientAddress_eq := getD_withoutHeader (by decide +kernel) _ _ _
  userAgent_eq := congrArg (Option.getD · "") (get?_headers_of_ne (by decide +kernel) environ)
  isModified_eq := by
    refine CachePolicy.isModified_eq_of_undated ?_ hundated ?_
    · exact congrArg (Option.getD · "") (get?_headers_of_ne (by decide +kernel) environ)
    · have habsent : (Request.ofEnviron (environ.withoutHeader "if-modified-since")).header
          "if-modified-since" "" = "" :=
        congrArg (Option.getD · "")
          (get?_headers_self (by decide +kernel) (by decide +kernel) environ)
      rw [habsent]
      rfl

/-- Requests that are alike get the same reply. -/
theorem Application.reply_eq_of_alike {app : Application} (hlogged : app.IsLogged)
    {environ other : Environ}
    (halike : (Request.ofEnviron environ).Alike (Request.ofEnviron other)) :
    app.reply other = app.reply environ := by
  have hanswer : app.handleRequest (Request.ofEnviron other) =
      app.handleRequest (Request.ofEnviron environ) := by
    obtain ⟨logs, hlogs⟩ := hlogged
    rw [handleRequest, hlogs]
    exact halike.wrap_eq logs (halike.inside.dispatch_eq app)
  simp only [reply, hanswer]
  rw [halike.isHead_eq]

end VersionedAssets

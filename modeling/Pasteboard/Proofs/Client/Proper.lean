import Pasteboard.Proofs.Call.Proper
import Pasteboard.Proofs.Client.Tasks

/-!
# The operations of clients are proper

Every request that an operation makes says in its body what it is, and the operation understands
every reply of the kind: see `Task.proper_run`. The null format is never counted, which is the one
request that its body does not tell from another one.
-/

namespace Pasteboard

open Call

namespace Notice

/-- The head is told by a message, and a failure to do so is only noted. -/
theorem tame_notifyHead (viewer owner : Option WindowId) : (notifyHead viewer owner).Tame := by
  cases viewer with
  | none => exact tame_done ()
  | some head =>
      refine tame_bind (tame_trace _) fun _ outcome => ?_
      cases outcome with
      | ok => exact tame_done ()
      | error => exact tame_warn _

theorem tame_notifyListeners (listeners : List WindowId) : (notifyListeners listeners).Tame := by
  induction listeners with
  | nil => exact tame_done ()
  | cons listener rest ih =>
      refine tame_bind (tame_bind (tame_trace _) fun _ outcome => ?_) fun _ => ih
      cases outcome with
      | ok => exact tame_done ()
      | error => exact tame_warn _

end Notice

namespace Acting

/-- A trace may ask for the name of the format, and does without it where there is none. -/
theorem tame_traceLabelled (front : String) (format : Format) :
    (traceLabelled front format).Tame := by
  refine tame_bind tame_client fun client => ?_
  split
  · refine tame_bind ?_ fun name => tame_trace _
    unfold label
    split
    · refine tame_bind (Ask.proper_formatName format).tame fun result => ?_
      split <;> exact tame_done _
    · exact tame_done _
  · exact tame_done ()

/-- Opening asks the store once, and the session is the client's own matter. -/
theorem proper_openSession (window : Option WindowId) : Proper (openSession window) := by
  refine proper_after trivial fun _ => ?_
  refine proper_bind (proper_ofAsking (Ask.proper_openSession window)) fun owner => ?_
  exact proper_after (tame_trace _) fun _ => proper_lift (tame_modify _)

/-- Putting asks the store once; the names in traces are asked for behind that. -/
theorem proper_putBytes (format : Format) (payload : Bytes) : Proper (putBytes format payload) := by
  refine proper_bind (proper_ofAsking (Ask.proper_put format payload)) fun _ => ?_
  exact proper_after (tame_traceLabelled _ _) fun _ => proper_lift (tame_modify _)

/-- A value is encoded by the client, which is no matter of reaching the store. -/
theorem proper_put (format : Format) (data : Data) : Proper (put format data) := by
  refine proper_after tame_client fun client => ?_
  exact proper_bind (proper_ofResult _ fun _ _ => trivial) fun payload => proper_putBytes _ _

/-- A locale that cannot be put is only noted. -/
theorem tame_addLocale : addLocale.Tame := by
  refine tame_bind tame_client fun client => tame_bind (proper_putBytes _ _).tame fun result => ?_
  split
  · exact tame_done ()
  · exact tame_warn _

/-- A placeholder that cannot be put is noted, and the next one is tried. -/
theorem tame_offerAll (derivations : List Derivation) : (offerAll derivations).Tame := by
  induction derivations with
  | nil => exact tame_done ()
  | cons derivation rest ih =>
      refine tame_bind (tame_bind (proper_putBytes _ _).tame fun result => ?_) fun _ => ih
      split
      · exact tame_modify _
      · exact tame_warn _

/-- A plan that cannot be made is only noted. -/
theorem tame_planDerivations : planDerivations.Tame := by
  refine tame_bind Ask.proper_listFormats.tame fun result => ?_
  split
  · exact tame_warn _
  · refine tame_bind trivial fun _ => tame_bind (tame_modify _) fun _ => ?_
    split
    · exact tame_bind tame_addLocale fun _ => tame_offerAll _
    · exact tame_offerAll _

/-- Listeners that cannot be asked for are not told. -/
theorem tame_tellListeners : tellListeners.Tame := by
  refine tame_bind Ask.proper_listeners.tame fun result => ?_
  split
  · exact Notice.tame_notifyListeners _
  · exact tame_warn _

/-- The store's own error is reported once the session is marked as over. -/
theorem proper_finishSession (session : Option Session) : Proper (finishSession session) := by
  refine proper_lift_bind Ask.proper_closeSession fun result hresult => ?_
  refine proper_after (tame_modify _) fun _ => ?_
  refine proper_bind (proper_ofResult _ fun error herror => ?_) fun reply => ?_
  · exact ClientError.reached_ofStore (hresult error herror)
  · refine proper_after (tame_trace _) fun _ => ?_
    refine proper_after (Notice.tame_notifyHead _ _) fun _ => ?_
    split
    · exact proper_after tame_tellListeners fun _ => proper_pure _
    · exact proper_pure _

/-- Whatever becomes of the plan, closing fails only as finishing does. -/
theorem proper_closeSession : Proper closeSession := by
  rw [closeSession_eq]
  refine proper_after tame_client fun client => ?_
  dsimp only
  split
  · exact proper_after tame_planDerivations fun _ => proper_finishSession _
  · exact proper_finishSession _

/-- A guard that ends a session only notes that closing failed. -/
theorem tame_leaveSession : leaveSession.Tame := by
  refine tame_bind proper_closeSession.tame fun result => ?_
  split
  · exact tame_done ()
  · exact tame_warn _

/-- The former owner is told by a message, and a failure to do so is only noted. -/
theorem tame_dismiss (previous : WindowId) : (dismiss previous).Tame := by
  refine tame_bind (tame_trace _) fun _ => tame_bind tame_client fun client answer => ?_
  cases answer with
  | ok => exact tame_done ()
  | error => exact tame_warn _

/-- A claim asks the store once and tells the head. -/
theorem proper_takeOver (viewer owner : Option WindowId) : Proper (takeOver viewer owner) := by
  refine proper_bind (proper_ofAsking (Ask.proper_claimOwnership owner)) fun _ => ?_
  refine proper_after (tame_trace _) fun _ => proper_after (tame_modify _) fun _ => ?_
  exact proper_lift (Notice.tame_notifyHead _ _)

/-- It asks for the former owner before. -/
theorem proper_claimOwnership (owner : Option WindowId) : Proper (claimOwnership owner) := by
  rw [claimOwnership_eq]
  refine proper_bind (proper_ofAsking Ask.proper_info) fun info => ?_
  dsimp only
  split
  · exact proper_after (tame_dismiss _) fun _ => proper_takeOver _ _
  · exact proper_takeOver _ _

/-- An owner that cannot be asked to render is released all the same. -/
theorem proper_releaseOwner (owner : WindowId) : Proper (releaseOwner owner) := by
  refine proper_after (tame_trace _) fun _ => proper_after (fun answer => ?_) fun _ => ?_
  · cases answer with
    | ok => exact tame_done ()
    | error => exact tame_warn _
  · refine proper_bind (proper_ofAsking (Ask.proper_releaseOwner owner)) fun reply => ?_
    exact proper_lift (Notice.tame_notifyHead _ _)

/-- A window that does not answer is an error, but not one of reaching the store. -/
theorem proper_requestRender (owner : WindowId) (format : Format) :
    Proper (requestRender owner format) := by
  refine proper_after (tame_trace _) fun _ => proper_after tame_client fun client => ?_
  refine proper_after (fun answer => tame_done answer) fun answer => ?_
  split
  · exact proper_pure _
  · exact proper_after (tame_warn _) fun _ => proper_throw trivial
  · exact proper_after (tame_warn _) fun _ => proper_throw trivial

theorem proper_fetchWith {format : Format} {limit : Nat}
    {missing : Nat → UInt32 → Option WindowId → Acting Bytes}
    (hmissing : ∀ left bufferLen owner, Proper (missing left bufferLen owner)) (left : Nat)
    (bufferLen : UInt32) : Proper (fetchWith format limit missing left bufferLen) := by
  -- Whatever the store replies, each further attempt is one fewer.
  induction left generalizing bufferLen with
  | zero => exact proper_throw trivial
  | succ left ih =>
      refine proper_bind (proper_ofAsking (Ask.proper_get format bufferLen)) fun reply => ?_
      have hretry (text : String) := proper_after (tame_trace text) fun _ => ih reply.total
      split
      · split
        · exact proper_after (tame_warn _) fun _ =>
            proper_bind (proper_throw trivial) fun _ => hretry _
        · exact hretry _
      · split
        · exact hmissing _ _ _
        · exact proper_after (tame_traceLabelled _ _) fun _ => proper_pure _
      · exact hmissing _ _ _

/-- A payload that is missing or outgrows all attempts is an error of that kind, too. -/
theorem proper_fetchBytes (format : Format) : Proper (fetchBytes format) := by
  refine proper_after tame_client fun client => ?_
  refine proper_fetchWith (fun left bufferLen owner => ?_) _ _
  cases owner with
  | none => exact proper_throw trivial
  | some owner =>
      refine proper_bind (proper_requestRender owner format) fun _ => ?_
      refine proper_fetchWith (fun _ _ _ => ?_) _ _
      exact proper_throw trivial

/-- A payload that cannot be decoded is one as well. -/
theorem proper_fetch (format : Format) : Proper (fetch format) := by
  refine proper_bind (proper_fetchBytes format) fun payload => ?_
  refine proper_after tame_client fun client => ?_
  refine proper_bind (proper_ofResult _ fun _ _ => trivial) fun decoded => ?_
  exact proper_after (tame_modify _) fun _ => proper_pure _

/-- Without a locale on the board the client's own is taken. -/
theorem tame_textSettings (target : Format) : (textSettings target).Tame := by
  have hlocale : locale.Tame := by
    refine tame_bind tame_client fun client => ?_
    refine tame_bind (proper_fetchBytes _).tame fun payload => ?_
    split <;> exact tame_done _
  refine tame_bind tame_client fun client => ?_
  dsimp only
  split
  · exact tame_bind hlocale fun locale => tame_done _
  · exact tame_bind (tame_done _) fun locale => tame_done _

/-- A rendering fetches, converts and puts, and each may fail for a reason of its own. -/
theorem proper_renderFrom (target source : Format) : Proper (renderFrom target source) := by
  refine proper_after (tame_trace _) fun _ => proper_bind (proper_fetch source) fun data => ?_
  refine proper_after (tame_textSettings target) fun text => ?_
  refine proper_after tame_client fun client => ?_
  refine proper_bind (proper_ofResult _ fun _ _ => trivial) fun converted => ?_
  refine proper_after (tame_modify _) fun _ => ?_
  exact proper_bind (proper_put _ _) fun _ => proper_pure _

/-- A get fetches or renders. -/
theorem proper_get (format : Format) : Proper (get format) := by
  refine proper_after tame_client fun client => ?_
  split
  · exact proper_renderFrom _ _
  · exact proper_fetch _

/-- All formats are counted, so the body says what is asked. -/
theorem proper_count : Proper count :=
  proper_after trivial fun _ => proper_ofAsking (Ask.proper_countFormats nofun)

/-- The null format is not asked for, which is the one filter that a body does not tell
from none. -/
theorem proper_contains (format : Format) : Proper (contains format) := by
  unfold contains
  split
  · exact proper_pure _
  · rename_i hformat
    have hfilter : some format ≠ some Format.null := fun hnull => hformat (Option.some.inj hnull)
    refine proper_after trivial fun _ => ?_
    exact proper_bind (proper_ofAsking (Ask.proper_countFormats hfilter)) fun _ => proper_pure _

/-- One format after another is asked for. -/
theorem proper_firstPresent (formats : List Format) : Proper (firstPresent formats) := by
  induction formats with
  | nil => exact proper_pure _
  | cons format rest ih =>
      refine proper_bind (proper_contains format) fun found => ?_
      split
      · exact proper_pure _
      · exact ih

/-- An empty board is told from one without any of the formats by a count of all. -/
theorem proper_priorityFormat (formats : List Format) : Proper (priorityFormat formats) := by
  refine proper_bind proper_count fun count => ?_
  split
  · exact proper_pure _
  · exact proper_firstPresent formats

/-- An empty name is refused before the store is asked. -/
theorem proper_registerFormat (name : String) : Proper (registerFormat name) := by
  unfold registerFormat
  split
  · exact proper_throw trivial
  · refine proper_bind (proper_ofAsking (Ask.proper_registerFormat name)) fun format => ?_
    exact proper_after (tame_trace _) fun _ => proper_pure _

/-- Only a format in the range of names is asked for. -/
theorem proper_formatName (format : Format) : Proper (formatName format) := by
  unfold formatName
  split
  · exact proper_ofAsking (Ask.proper_formatName format)
  · exact proper_pure _

/-- The head is told once the viewer is set, and a reply that it is up to the head is an error. -/
theorem proper_setViewer (window : Option WindowId) : Proper (setViewer window) := by
  refine proper_bind (proper_ofAsking (Ask.proper_setViewer window none)) fun reply => ?_
  split
  · refine proper_after (tame_trace _) fun _ => ?_
    exact proper_after (Notice.tame_notifyHead _ _) fun _ => proper_pure _
  · exact proper_throw trivial

/-- What the head answers is no matter of the store. -/
theorem proper_changeChain (removed : WindowId) (next : Option WindowId) :
    Proper (changeChain removed next) := by
  refine proper_bind (proper_ofAsking (Ask.proper_setViewer next (some removed))) fun reply => ?_
  split
  · exact proper_pure _
  · refine proper_after (fun answer => tame_done answer) fun answer => ?_
    exact proper_ofResult _ fun _ _ => trivial

end Acting

namespace Task

/-- A task is proper if its operation is. -/
theorem proper_outcome {α : Type} (value : α → Value) {acting : Acting α}
    (h : Acting.Proper acting) : (outcome value acting).Proper Outcome.Reached := by
  refine Call.Proper.bind h fun result hresult => ?_
  cases result with
  | ok => trivial
  | error error => exact hresult error rfl

/-- The object of a value is looked up behind the operation, which takes no request. -/
theorem proper_dataOutcome {acting : Acting Data} (h : Acting.Proper acting) :
    (dataOutcome acting).Proper Outcome.Reached := by
  refine Call.Proper.bind h fun result hresult => ?_
  cases result with
  | ok => exact tame_bind tame_client fun client => trivial
  | error error => exact hresult error rfl

/-- A guarded session is proper if its tasks are. -/
theorem proper_session (window : Option WindowId) (close : Bool) {tasks : List Task}
    (htasks : (runAll tasks).Proper Outcome.AllReached) :
    (Task.session window tasks close).run.Proper Outcome.Reached := by
  refine Call.Proper.bind (Acting.proper_openSession window) fun result hresult => ?_
  cases result with
  | error error => exact hresult error rfl
  | ok =>
      refine htasks.bind fun outcomes houtcomes => ?_
      refine tame_bind tame_client fun client => ?_
      cases close with
      | true =>
          refine Call.Proper.bind Acting.proper_closeSession fun result hresult => ?_
          refine ⟨houtcomes, fun error herror => hresult error ?_⟩
          cases herror
          rfl
      | false =>
          exact tame_bind Acting.tame_leaveSession fun _ => ⟨houtcomes, fun _ h => by cases h⟩

/-- Building an object takes no request. -/
theorem proper_build (blueprint : Blueprint) : (build blueprint).Proper Outcome.Reached := by
  refine tame_bind tame_client fun client => ?_
  split
  · exact tame_bind (tame_modify _) fun _ => trivial
  · trivial

mutual

/-- A regular task is proper, and no operation in it fails because the store is not reached. -/
theorem proper_run (task : Task) (hregular : task.Regular) :
    task.run.Proper Outcome.Reached := by
  cases task with
  | openSession window => exact proper_outcome _ (Acting.proper_openSession window)
  | closeSession => exact proper_outcome _ Acting.proper_closeSession
  | session window tasks close =>
      exact proper_session window close (proper_runAll tasks hregular)
  | claim owner => exact proper_outcome _ (Acting.proper_claimOwnership owner)
  | put format data => exact proper_outcome _ (Acting.proper_put format data)
  | putDelayed format => exact proper_outcome _ (Acting.proper_putBytes format [])
  | get format => exact proper_dataOutcome (Acting.proper_get format)
  | render target source => exact proper_dataOutcome (Acting.proper_renderFrom target source)
  | enumerate previous =>
      refine proper_outcome _ (Acting.proper_bind ?_ fun _ => Acting.proper_pure _)
      exact Acting.proper_ofAsking (Ask.proper_enumerateFormats previous)
  | count => exact proper_outcome _ Acting.proper_count
  | contains format => exact proper_outcome _ (Acting.proper_contains format)
  | formats =>
      refine proper_outcome _ (Acting.proper_after trivial fun _ => ?_)
      exact Acting.proper_ofAsking Ask.proper_listFormats
  | priority wanted => exact proper_outcome _ (Acting.proper_priorityFormat wanted)
  | info | owner | openWindow | viewer | sequence =>
      exact proper_outcome _ (Acting.proper_ofAsking Ask.proper_info)
  | register name => exact proper_outcome _ (Acting.proper_registerFormat name)
  | name format => exact proper_outcome _ (Acting.proper_formatName format)
  | release owner => exact proper_outcome _ (Acting.proper_releaseOwner owner)
  | setViewer window => exact proper_outcome _ (Acting.proper_setViewer window)
  | changeChain removed next => exact proper_outcome _ (Acting.proper_changeChain removed next)
  | addListener window =>
      exact proper_outcome _ (Acting.proper_ofAsking (Ask.proper_addListener window))
  | removeListener window =>
      exact proper_outcome _ (Acting.proper_ofAsking (Ask.proper_removeListener window))
  | create blueprint => exact proper_build blueprint
  | object handle => exact tame_bind tame_client fun client => trivial
  | ask => exact False.elim hregular

/-- Tasks done one after another are proper if each of them is. -/
theorem proper_runAll (tasks : List Task) (hregular : AllRegular tasks) :
    (runAll tasks).Proper Outcome.AllReached := by
  cases tasks with
  | nil => trivial
  | cons task rest =>
      refine (proper_run task hregular.1).bind fun outcome houtcome => ?_
      refine (proper_runAll rest hregular.2).bind fun outcomes houtcomes => ?_
      exact ⟨houtcome, houtcomes⟩

end

end Task

end Pasteboard

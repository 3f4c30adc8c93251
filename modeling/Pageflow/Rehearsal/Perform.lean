import Pageflow.Network.Idle
import Pageflow.Rehearsal.World
/-!
How the world of a rehearsal answers questions. Most answers are given at once; the others are
waited for, which is left to whoever lets time pass.
-/
namespace Pageflow.Rehearsal

open Browser

/-- The state of the activities and the world around them. -/
structure Shared where
  state : State
  world : World

/-- Why an activity gives up control. -/
inductive Hold where
  /-- Until others have run, `turns` times. -/
  | pass (turns : Nat)
  /-- Until a time. -/
  | sleep (time : Int)
  /-- Until a condition holds, which is noticed after some turns, or until a time. -/
  | await (condition : Shared → Bool) (turns : Nat) (deadline : Option Int)
  | forever

/-- An activity with the world as its surroundings. To a wait it is answered whether the condition
came to hold in time. -/
abbrev Act (α : Type) : Type := Program Shared Hold (fun _ => Result Bool) α

namespace Act

def hold (h : Hold) : Act (Result Bool) := .ask h .done

def world : Act World := do return (← Program.state).world

def modifyWorld (f : World → World) : Act Unit :=
  Program.modify fun s => { s with world := f s.world }

def updateWorld {α : Type} (f : World → α × World) : Act α :=
  Program.update fun s =>
    let (a, world) := f s.world
    (a, { s with world })

/-- Lets some seconds pass. -/
def wait (seconds : Double) : Act (Result Unit) := do
  let w ← world
  return (← hold (.sleep (w.after seconds))).map fun _ => ()

/-- Goes on with `next` unless `r` is a fault. -/
def andThen {α β : Type} (r : Result α) (next : α → Act (Result β)) : Act (Result β) :=
  match r with
  | .ok a => next a
  | .error fault => pure (.error fault)

/-- Milliseconds in seconds. -/
def ofMillis (ms : Int) : Double := (Double.ofInt ms).div 1000

end Act

open Act

/-- Starts a call of a page: it takes its time and may fail. -/
def beginCall (p : PageRef) (method : String) : Act (Result Unit) := do
  let fault ← updateWorld fun w => w.countPageCall p method
  let w ← world
  let latency := ((w.page? p).bind fun page => page.script.latency.lookup method).getD 0
  let waited ← if 0 < latency then wait (ofMillis latency) else pure (.ok ())
  andThen waited fun _ =>
    match fault with
    | some fault => pure (.error fault)
    | none => pure (.ok ())

/-- A recorded call of a page, answered by `reply`. -/
def pageCall {α : Type} (p : PageRef) (method : String) (arguments : List Json)
    (reply : World → LivePage → Result α × LivePage) : Act (Result α) := do
  modifyWorld fun w => w.recordCall p (.str method :: arguments)
  andThen (← beginCall p method) fun _ =>
    updateWorld fun w =>
      match w.page? p with
      | none => (.error (.browser "Target page, context or browser has been closed"), w)
      | some page =>
        let (r, page) := reply w page
        (r, w.modifyPage p fun _ => page)

/-- A call that only looks at the page. -/
def pageQuery {α : Type} (p : PageRef) (method : String) (arguments : List Json)
    (reply : World → LivePage → α) : Act (Result α) :=
  pageCall p method arguments fun w page => (.ok (reply w page), page)

/-- A call that yields nothing. -/
def pageDo (p : PageRef) (method : String) (arguments : List Json)
    (change : LivePage → LivePage := id) : Act (Result Unit) :=
  pageCall p method arguments fun _ page => (.ok (), change page)

/-- Waits for an element to be there. -/
def waitFor (p : PageRef) (selector : String) (timeoutMs : Int) :
    Act (Result (Option ElementRef)) := do
  modifyWorld fun w =>
    w.recordCall p [.str "wait_for_selector", .str selector, .str "visible", .int timeoutMs]
  andThen (← beginCall p "wait_for_selector") fun _ => do
    let w ← world
    let element := (w.page? p).bind (·.element? selector)
    if (element.map (·.missing)).getD false then return .ok none
    match element.bind (·.nextPresence? w.micros (w.micros + timeoutMs * 1000)) with
    | some time =>
      let waited ← if w.micros < time then hold (.sleep time) else pure (.ok true)
      return waited.map fun _ => some ⟨p, selector⟩
    | none =>
      andThen (← wait (ofMillis timeoutMs)) fun _ =>
        pure (.error (.browserTimeout ("Timeout " ++ toString timeoutMs ++ "ms exceeded.")))

/-- A call of a page that is not recorded. -/
def silently {α : Type} (p : PageRef) (method : String) (act : World → α × World) :
    Act (Result α) :=
  updateWorld fun w =>
    match w.countPageCall p method with
    | (some fault, w) => (.error fault, w)
    | (none, w) =>
      let (a, w) := act w
      (.ok a, w)

/-- The options of a navigation as they are recorded. -/
def gotoOptions : Option Int → Json
  | some ms => .obj [("wait_until", "load"), ("timeout", .int ms)]
  | none => .obj []

/-- Answers a call of a page. -/
def callPage (p : PageRef) : (c : PageCall) → Act (Result c.Answer)
  | .goto url timeout =>
    pageDo p "goto" [.str url, gotoOptions timeout] fun page => { page with url }
  | .click selector timeoutMs =>
    pageDo p "click" [.str selector, .obj [("timeout", .int timeoutMs)]]
  | .waitFor selector timeoutMs => waitFor p selector timeoutMs
  | .query selector =>
    pageQuery p "query_selector" [.str selector] fun w page =>
      match page.element? selector with
      | some e => if e.present w.micros then some ⟨p, selector⟩ else none
      | none => none
  | .readNextSibling anchor child =>
    pageQuery p "evaluate" [.str "next_sibling", .arr [.str anchor, .str child]] fun _ page =>
      page.reading "next_sibling" anchor child fun d => d.readNextSibling anchor child
  | .readAncestor anchor child =>
    pageQuery p "evaluate" [.str "ancestor", .arr [.str anchor, .str child]] fun _ page =>
      page.reading "ancestor" anchor child fun d => d.readAncestor anchor child
  | .candidates selectors =>
    pageQuery p "evaluate" [.str "candidates", .arr (selectors.map .str)] fun w page =>
      page.candidates w.micros selectors
  | .measure selector =>
    pageQuery p "evaluate" [.str "metrics", .str selector] fun _ page => page.metrics? selector
  | .advance selector overlap =>
    pageDo p "evaluate" [.str "scroll", .arr [.str selector, .int overlap]] fun page =>
      page.advance selector overlap
  | .screenshot true => pageQuery p "screenshot" [.bool true] fun _ page => .raw page.script.fullShot
  | .screenshot false =>
    pageCall p "screenshot" [.bool false] fun _ page =>
      let (picture, page) := page.viewportPicture
      (.ok picture, page)
  | .moveMouse x y => pageDo p "mouse.move" [.float x, .float y]
  | .wheel dx dy => pageDo p "mouse.wheel" [.int dx, .int dy]
  | .close => pageDo p "close" [] fun page => { page with closed := true }
  | .url => silently p "url" fun w => (((w.page? p).map (·.url)).getD "", w)
  | .isClosed => silently p "is_closed" fun w => (w.isClosed p, w)
  | .setTimeout ms => pageDo p "set_default_timeout" [.int ms]
  | .setNavigationTimeout ms => pageDo p "set_default_navigation_timeout" [.int ms]
  | .listen event =>
    silently p "on" fun w =>
      ((), w.modifyPage p fun page => page.setListeners event (page.listenerCount event + 1))
  | .unlisten event =>
    silently p "remove_listener" fun w =>
      ((), w.modifyPage p fun page => page.setListeners event (page.listenerCount event - 1))

/-- Answers a call of an element. -/
def callElement (e : ElementRef) : (c : ElementCall) → Act (Result c.Answer)
  | .textContent =>
    pageQuery e.page "element.text_content" [.str e.selector] fun _ page =>
      (page.element? e.selector).bind (·.text)
  | .boundingBox =>
    pageQuery e.page "element.bounding_box" [.str e.selector] fun _ page =>
      (page.element? e.selector).bind (·.box)
  | .screenshot =>
    pageQuery e.page "element.screenshot" [.str e.selector] fun _ page =>
      page.elementPicture e.selector

/-- Closes a context; the session is told. -/
def contextCloses (context : ContextRef) (s : Shared) : Shared :=
  { state := { s.state with session := s.state.session.contextClosed context }
    world := { s.world with contexts := s.world.contexts.set context.number true } }

/-- What the browser says of a context that is closed. -/
def closedFault : Fault := .browser "Target page, context or browser has been closed"

/-- Answers a call of the browser. -/
def callBrowser : (c : BrowserCall) → Act (Result c.Answer)
  | .startDriver => updateWorld fun w =>
    let (fault, w) := (w.recordLog [.str "playwright.start"]).countOwnCall "playwright.start"
    (fault.elim (.ok ()) .error, w)
  | .stopDriver => updateWorld fun w =>
    let (fault, w) := (w.recordLog [.str "playwright.stop"]).countOwnCall "playwright.stop"
    (fault.elim (.ok ()) .error, w)
  | .launch profile options => do
    let fault ← updateWorld fun w =>
      (w.recordLog [.str "launch", .str profile, options]).countOwnCall "launch"
    let w ← world
    let waited ← if 0 < w.launchMs then wait (ofMillis w.launchMs) else pure (.ok ())
    andThen waited fun _ =>
      match fault with
      | some fault => pure (.error fault)
      | none =>
        updateWorld fun w =>
          (.ok ⟨w.contexts.length⟩, { w with contexts := w.contexts ++ [false] })
  | .newPage context => updateWorld fun w =>
    match w.countOwnCall "new_page" with
    | (some fault, w) => (.error fault, w)
    | (none, w) =>
      if (w.contexts[context.number]?).getD true then (.error closedFault, w)
      else
        let (p, w) := w.openPage w.nextScript
        (.ok p, w)
  | .closeContext context => do
    let fault ← updateWorld fun w =>
      (w.recordLog [.str "context.close"]).countOwnCall "context.close"
    match fault with
    | some fault => return .error fault
    | none =>
      Program.modify (contextCloses context)
      return .ok ()

/-- The number of turns after which an activity notices that a condition holds: a wait with a limit
is kept by a helper, which is told first. -/
def noticeTurns (limit : Option Double) : Nat := if limit.isSome then 2 else 1

/-- Stores a picture. -/
def storePicture (w : World) (data : Capture.Picture) (hint : String) : Result String × World :=
  let (fault, w) := w.countOwnCall "upload"
  match fault with
  | some fault => (.error fault, w)
  | none =>
    match w.storage with
    | .memory => (.ok ("mem://" ++ hint), { w with uploads := w.uploads ++ [(hint, data)] })
    | .store (.files s) =>
      match s.upload w.files (.picture data) hint with
      | .ok (url, files) => (.ok url, { w with files })
      | .error fault => (.error fault, w)
    | .store (.bucket s) =>
      match s.key hint with
      | .ok key => (s.finish key (.ok ()), { w with uploads := w.uploads ++ [(key, data)] })
      | .error fault => (.error fault, w)

/-- The bytes of a file. -/
def Content.toBytes : Content → List Nat
  | .bytes b => b
  | .picture _ => []

/-- The same tree with other content. -/
def mapFiles {α β : Type} (f : α → β) (t : FileTree α) : FileTree β :=
  ⟨t.entries.map fun (p, e) =>
    match e with
    | .file a => (p, .file (f a))
    | .directory => (p, .directory)⟩

/-- What a client has for its receiver. -/
def takeIncoming (w : World) (name : String) : Option (Incoming × World) :=
  match w.client? name with
  | none => some (.disconnected, w)
  | some c =>
    match c.inbox with
    | text :: rest => some (.text text, w.modifyClient name fun c => { c with inbox := rest })
    | [] => if c.gone then some (.disconnected, w) else none

/-- Waits for a message of a client. -/
def receive (name : String) (seconds : Double) : Act (Result Incoming) := do
  let w ← world
  let ready (s : Shared) : Bool := (takeIncoming s.world name).isSome
  let inTime ← hold (.await ready 2 (some (w.after seconds)))
  andThen inTime fun _ =>
    updateWorld fun w =>
      match takeIncoming w name with
      | some (incoming, w) => (.ok incoming, w)
      | none => (.ok .nothing, w)

/-- Sends to a client. -/
def send (name : String) (frame : Frame) : Act (Result Unit) :=
  updateWorld fun w =>
    match w.client? name with
    | none => (.error (.foreign "RuntimeError" "gone"), w)
    | some c =>
      if c.broken then (.error (.foreign "RuntimeError" "broken"), w)
      else (.ok (), w.modifyClient name fun c => { c with sent := c.sent ++ [frame] })

/-- Waits for a line to be entered. -/
def readLine : Act (Result Unit) := do
  let delay ← updateWorld fun w =>
    match w.entries with
    | delay :: rest => (some delay, { w with entries := rest })
    | [] => (none, w)
  match delay with
  | some ms => wait (ofMillis ms)
  | none => return (← hold .forever).map fun _ => ()

/-- Answers a question. -/
def perform : (q : Ask) → Act q.Reply
  | .elapsed | .wall => do return (← world).seconds
  | .now => do return (← world).micros
  | .freshId => updateWorld fun w => ("task-" ++ toString (w.ids + 1), { w with ids := w.ids + 1 })
  | .sleep seconds => wait seconds
  | .pass => do return (← hold (.pass 2)).map fun _ => ()
  | .await condition limit => do
    let w ← world
    hold (.await (fun s => condition.holds s.state) (noticeTurns limit) (limit.map w.after))
  | .page p call => callPage p call
  | .element e call => callElement e call
  | .browser call => callBrowser call
  | .makeDirectory path => updateWorld fun w =>
    match w.files.makeDirectory (Path.ofString path) with
    | .ok files => (.ok (), { w with files })
    | .error fault => (.error fault, w)
  | .files _ => do return mapFiles Content.toBytes (← world).files
  | .upload data hint => updateWorld fun w => storePicture w data hint
  | .post url body => updateWorld fun w => (.ok (), { w with posts := w.posts ++ [(url, body)] })
  | .send name frame => send name frame
  | .receive name seconds => receive name seconds
  | .print line => modifyWorld fun w => { w with printed := w.printed ++ [line] }
  | .readLine => readLine
  | .start job => modifyWorld fun w => { w with starting := w.starting ++ [job] }
  | .stop job => modifyWorld fun w => { w with stopping := w.stopping ++ [job] }

/-- An activity as it runs in a rehearsal. -/
def enact {α : Type} : Activity α → Act α
  | .done value => .done value
  | .fail fault => .fail fault
  | .read next => .read fun s => enact (next s.state)
  | .write state next => .read fun s => .write { s with state } (enact next)
  | .ask q next => (perform q).bind fun r => enact (next r)

end Pageflow.Rehearsal

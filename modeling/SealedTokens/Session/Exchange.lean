import SealedTokens.Http.Cookie
import SealedTokens.Http.Header
/-!
Exchanges: what a request brings for finding its session, and the cookies that its response will
set.
-/
namespace SealedTokens

/-- The request side and the response side of one message pair. -/
structure Exchange where
  headers : Http.Headers := []
  host : Option String := none
  cookies : List Http.SetCookie := []

namespace Exchange

/-- The exchange of a request; the host comes from the target's authority, or else from the
header. -/
def ofRequest (headers : Http.Headers) (authority : Option String := none) : Exchange :=
  { headers, host := authority.or (headers.text? "host") }

/-- The value of a header, if it is text. -/
def header? (e : Exchange) (name : String) : Option String := e.headers.text? name

def cookie? (e : Exchange) (name : String) : Option Http.Cookie :=
  (((e.headers.all "cookie").filterMap Http.visibleText?).flatMap Http.Cookie.ofHeader).find?
    fun c => c.name == name

/-- Adds a cookie to the response. -/
def setCookie (e : Exchange) (cookie : Http.SetCookie) : Exchange :=
  { e with cookies := e.cookies ++ [cookie] }

end Exchange

end SealedTokens

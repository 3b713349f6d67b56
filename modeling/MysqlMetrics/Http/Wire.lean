import MysqlMetrics.Http.Message
import MysqlMetrics.Text.Blank
/-!
# Messages on the wire

The head of a request is a line with method and target and a line for each header; a response is
written with its status, its headers and the length of its body.
-/
namespace MysqlMetrics

namespace Request

/-- Reads the lines of a head, less the blank one that ends it. -/
def ofLines? : List String → Option Request
  | [] => none
  | first :: rest =>
    match Text.split ' ' (Text.trim first) with
    | method :: target :: _ =>
      some { method := method, target := target
             headers := rest.filterMap fun line =>
               (Text.cut ':' line).map fun (name, value) =>
                 (Text.trim name, Utf8.encode (Text.trim value)) }
    | _ => none

end Request

namespace Response

def reason (status : Nat) : String :=
  match status with
  | 200 => "OK"
  | 400 => "Bad Request"
  | 401 => "Unauthorized"
  | 404 => "Not Found"
  | 405 => "Method Not Allowed"
  | 500 => "Internal Server Error"
  | 503 => "Service Unavailable"
  | _ => ""

def write (r : Response) : String :=
  let headers := r.headers ++ [("content-length", toString (Utf8.encode r.body).length)]
  "HTTP/1.1 " ++ toString r.status ++ " " ++ reason r.status ++ "\r\n" ++
    String.join (headers.map fun (name, value) => name ++ ": " ++ value ++ "\r\n") ++ "\r\n" ++
      r.body

end Response
end MysqlMetrics

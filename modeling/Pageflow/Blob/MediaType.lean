import Pageflow.Text.Case
import Pageflow.Text.Parts
/-!
Media types of stored objects, guessed from the extension of their keys. A key that reads as an
address with a scheme is judged by the path of that address.
-/
namespace Pageflow.Blob

/-- The media types, each with its extensions. -/
def mediaTypes : List (String × String) :=
  [("application/javascript", "js mjs"), ("application/json", "json"),
    ("application/manifest+json", "webmanifest"), ("application/msword", "doc dot wiz"),
    ("application/n-quads", "nq"), ("application/n-triples", "nt"),
    ("application/octet-stream", "a bin dll exe o obj so"), ("application/oda", "oda"),
    ("application/pdf", "pdf"), ("application/pkcs7-mime", "p7c"),
    ("application/postscript", "ai eps ps"), ("application/trig", "trig"),
    ("application/vnd.apple.mpegurl", "m3u m3u8"), ("application/vnd.ms-excel", "xlb xls"),
    ("application/vnd.ms-powerpoint", "pot ppa pps ppt pwz"), ("application/wasm", "wasm"),
    ("application/x-bcpio", "bcpio"), ("application/x-cpio", "cpio"),
    ("application/x-csh", "csh"), ("application/x-dvi", "dvi"), ("application/x-gtar", "gtar"),
    ("application/x-hdf", "hdf"), ("application/x-hdf5", "h5"), ("application/x-latex", "latex"),
    ("application/x-mif", "mif"), ("application/x-netcdf", "cdf nc"),
    ("application/x-pkcs12", "p12 pfx"), ("application/x-pn-realaudio", "ram"),
    ("application/x-python-code", "pyc pyo"), ("application/x-sh", "sh"),
    ("application/x-shar", "shar"), ("application/x-shockwave-flash", "swf"),
    ("application/x-sv4cpio", "sv4cpio"), ("application/x-sv4crc", "sv4crc"),
    ("application/x-tar", "tar"), ("application/x-tcl", "tcl"), ("application/x-tex", "tex"),
    ("application/x-texinfo", "texi texinfo"), ("application/x-troff", "roff t tr"),
    ("application/x-troff-man", "man"), ("application/x-troff-me", "me"),
    ("application/x-troff-ms", "ms"), ("application/x-ustar", "ustar"),
    ("application/x-wais-source", "src"), ("application/xml", "rdf wsdl xpdl xsl"),
    ("application/zip", "zip"), ("audio/3gpp", "3gp 3gpp"), ("audio/3gpp2", "3g2 3gpp2"),
    ("audio/aac", "aac adts ass loas"), ("audio/basic", "au snd"), ("audio/mpeg", "mp2 mp3"),
    ("audio/opus", "opus"), ("audio/x-aiff", "aif aifc aiff"), ("audio/x-pn-realaudio", "ra"),
    ("audio/x-wav", "wav"), ("image/avif", "avif"), ("image/bmp", "bmp"), ("image/gif", "gif"),
    ("image/heic", "heic"), ("image/heif", "heif"), ("image/ief", "ief"),
    ("image/jpeg", "jpe jpeg jpg"), ("image/png", "png"), ("image/svg+xml", "svg"),
    ("image/tiff", "tif tiff"), ("image/vnd.microsoft.icon", "ico"),
    ("image/x-cmu-raster", "ras"), ("image/x-portable-anymap", "pnm"),
    ("image/x-portable-bitmap", "pbm"), ("image/x-portable-graymap", "pgm"),
    ("image/x-portable-pixmap", "ppm"), ("image/x-rgb", "rgb"), ("image/x-xbitmap", "xbm"),
    ("image/x-xpixmap", "xpm"), ("image/x-xwindowdump", "xwd"),
    ("message/rfc822", "eml mht mhtml nws"), ("text/css", "css"), ("text/csv", "csv"),
    ("text/html", "htm html"), ("text/n3", "n3"), ("text/plain", "bat c h ksh pl srt txt"),
    ("text/richtext", "rtx"), ("text/tab-separated-values", "tsv"), ("text/vtt", "vtt"),
    ("text/x-python", "py"), ("text/x-setext", "etx"), ("text/x-sgml", "sgm sgml"),
    ("text/x-vcard", "vcf"), ("text/xml", "xml"), ("video/mp4", "mp4"),
    ("video/mpeg", "m1v mpa mpe mpeg mpg"), ("video/quicktime", "mov qt"),
    ("video/webm", "webm"), ("video/x-msvideo", "avi"), ("video/x-sgi-movie", "movie")]

/-- The extensions of compressed files; they are passed over. -/
def compressedExtensions : List String := [".gz", ".Z", ".bz2", ".xz", ".br"]

/-- Short extensions that stand for two. -/
def shortExtensions : List (String × String) :=
  [(".svgz", ".svg.gz"), (".tgz", ".tar.gz"), (".taz", ".tar.gz"), (".tz", ".tar.gz"),
    (".tbz2", ".tar.bz2"), (".txz", ".tar.xz")]

/-- What is used where nothing can be guessed. -/
def defaultMediaType : String := "application/octet-stream"

/-- A name before its extension and the extension with its dot. Dots that lead a file name do not
start an extension. -/
def splitExtension (name : String) : String × String :=
  let file := ((Text.splitChars '/' name.toList).getLast?).getD []
  let body := file.dropWhile (· == '.')
  if body.contains '.' then
    let extension := '.' :: (body.reverse.takeWhile (· != '.')).reverse
    (String.ofList (name.toList.take (name.length - extension.length)), String.ofList extension)
  else (name, "")

/-- Characters of a scheme. -/
def isSchemeChar (c : Char) : Bool := c.isAlphanum || c == '+' || c == '-' || c == '.'

/-- The schemes whose paths may carry parameters after a semicolon. -/
def parameterSchemes : List String :=
  ["ftp", "hdl", "prospero", "http", "https", "shttp", "rtsp", "rtsps", "rtspu", "sip", "sips",
    "mms", "sftp", "tel"]

/-- Everything before the first `mark`, all of it if there is none. -/
def before (mark : Char) (cs : List Char) : List Char := cs.takeWhile (· != mark)

/-- A path without the parameters of its last part. -/
def dropParameters (cs : List Char) : List Char :=
  let file := (cs.reverse.takeWhile (· != '/')).reverse
  cs.take (cs.length - file.length) ++ before ';' file

/-- The scheme of an address, in lower case, and its path. -/
def schemeAndPath? (key : String) : Option (String × List Char) :=
  let cs := (key.toList.dropWhile fun c => c.toNat ≤ 0x20).filter fun c =>
    c != '\t' && c != '\r' && c != '\n'
  match Text.cutAt? [':'] cs with
  | some (scheme, rest) =>
    if (scheme.head?.map Char.isAlpha).getD false && scheme.all isSchemeChar then
      let scheme := String.ofList (scheme.map Char.toLower)
      let path := before '?' (before '#' rest)
      some (scheme, if parameterSchemes.contains scheme then dropParameters path else path)
    else none
  | none => none

/-- The media type that a `data` address names. -/
def namedMediaType? (path : List Char) : Option String :=
  if path.contains ',' then
    let named := before ';' (before ',' path)
    some (if named.contains '=' || !named.contains '/' then "text/plain" else String.ofList named)
  else none

/-- Writes out a short extension at the end of a name. -/
def expandExtension (name : String) : String :=
  let (base, extension) := splitExtension name
  match shortExtensions.lookup (Text.lower extension) with
  | some long => base ++ long
  | none => name

/-- The media type of the extension of a name. -/
def extensionMediaType? (name : String) : Option String :=
  let name := expandExtension name
  let (base, extension) := splitExtension name
  let extension := if compressedExtensions.contains extension then (splitExtension base).2 else extension
  let wanted := String.ofList ((Text.lower extension).toList.drop 1)
  if wanted.isEmpty then none
  else (mediaTypes.find? fun entry => (Text.split ' ' entry.2).contains wanted).map (·.1)

/-- The media type of an object. -/
def mediaType (key : String) : String :=
  let guess :=
    match schemeAndPath? key with
    | some (scheme, path) =>
      if scheme.length ≤ 1 then extensionMediaType? key
      else if scheme == "data" then namedMediaType? path
      else extensionMediaType? (String.ofList path)
    | none => extensionMediaType? key
  guess.getD defaultMediaType

end Pageflow.Blob

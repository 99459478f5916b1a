/-! # The bundled standard packages

The import paths of the standard library of the Go language, in order. -/

namespace PackageCensus.StandardList

/-- The first half of the list. -/
def firstIds : List String := [
  "archive/tar", "archive/zip", "bufio", "bytes", "cmp", "compress/bzip2", "compress/flate",
  "compress/gzip", "compress/lzw", "compress/zlib", "container/heap", "container/list",
  "container/ring", "context", "crypto", "crypto/aes", "crypto/cipher", "crypto/des",
  "crypto/dsa", "crypto/ecdh", "crypto/ecdsa", "crypto/ed25519", "crypto/elliptic", "crypto/hmac",
  "crypto/internal/alias", "crypto/internal/bigmod", "crypto/internal/boring",
  "crypto/internal/boring/bbig", "crypto/internal/boring/bcache", "crypto/internal/boring/sig",
  "crypto/internal/edwards25519", "crypto/internal/edwards25519/field", "crypto/internal/nistec",
  "crypto/internal/nistec/fiat", "crypto/internal/randutil", "crypto/md5", "crypto/rand",
  "crypto/rc4", "crypto/rsa", "crypto/sha1", "crypto/sha256", "crypto/sha512", "crypto/subtle",
  "crypto/tls", "crypto/tls/fipsonly", "crypto/x509", "crypto/x509/pkix", "database/sql",
  "database/sql/driver", "debug/buildinfo", "debug/dwarf", "debug/elf", "debug/gosym",
  "debug/macho", "debug/pe", "debug/plan9obj", "embed", "encoding", "encoding/ascii85",
  "encoding/asn1", "encoding/base32", "encoding/base64", "encoding/binary", "encoding/csv",
  "encoding/gob", "encoding/hex", "encoding/json", "encoding/pem", "encoding/xml", "errors",
  "expvar", "flag", "fmt", "go/ast", "go/build", "go/build/constraint", "go/constant", "go/doc",
  "go/doc/comment", "go/format", "go/importer", "go/parser", "go/printer", "go/scanner",
  "go/token", "go/types", "go/version", "hash", "hash/adler32", "hash/crc32", "hash/crc64",
  "hash/fnv", "hash/maphash", "html", "html/template", "image", "image/color",
  "image/color/palette", "image/draw", "image/gif", "image/jpeg", "image/png",
  "index/suffixarray", "internal/abi", "internal/bisect", "internal/buildcfg", "internal/bytealg",
  "internal/cfg", "internal/chacha8rand", "internal/coverage", "internal/coverage/calloc",
  "internal/coverage/cformat", "internal/coverage/cmerge", "internal/coverage/decodecounter",
  "internal/coverage/decodemeta", "internal/coverage/encodecounter",
  "internal/coverage/encodemeta", "internal/coverage/pods", "internal/coverage/rtcov",
  "internal/coverage/slicereader", "internal/coverage/slicewriter", "internal/coverage/stringtab",
  "internal/coverage/test", "internal/coverage/uleb128", "internal/cpu", "internal/dag",
  "internal/diff", "internal/fmtsort", "internal/fuzz", "internal/goarch", "internal/godebug",
  "internal/godebugs", "internal/goexperiment", "internal/goos", "internal/goroot",
  "internal/gover", "internal/goversion", "internal/intern", "internal/itoa",
  "internal/lazyregexp"]

/-- The second half of the list. -/
def secondIds : List String := [
  "internal/lazytemplate", "internal/nettrace", "internal/obscuretestdata", "internal/oserror",
  "internal/pkgbits", "internal/platform", "internal/poll", "internal/profile", "internal/race",
  "internal/reflectlite", "internal/safefilepath", "internal/saferio", "internal/singleflight",
  "internal/syscall/execenv", "internal/syscall/unix", "internal/syscall/windows",
  "internal/syscall/windows/registry", "internal/syscall/windows/sysdll", "internal/sysinfo",
  "internal/testenv", "internal/testlog", "internal/testpty", "internal/trace",
  "internal/trace/traceviewer", "internal/trace/traceviewer/format", "internal/trace/v2",
  "internal/trace/v2/event", "internal/trace/v2/event/go122", "internal/trace/v2/raw",
  "internal/trace/v2/testtrace", "internal/trace/v2/version", "internal/txtar",
  "internal/types/errors", "internal/unsafeheader", "internal/xcoff", "internal/zstd", "io",
  "io/fs", "io/ioutil", "iter", "log", "log/slog", "log/syslog", "maps", "math", "math/big",
  "math/bits", "math/cmplx", "math/rand", "math/rand/v2", "mime", "mime/multipart",
  "mime/quotedprintable", "net", "net/http", "net/http/cgi", "net/http/cookiejar",
  "net/http/fcgi", "net/http/httptest", "net/http/httptrace", "net/http/httputil",
  "net/http/internal", "net/http/internal/ascii", "net/http/internal/testcert", "net/http/pprof",
  "net/internal/socktest", "net/mail", "net/netip", "net/rpc", "net/rpc/jsonrpc", "net/smtp",
  "net/textproto", "net/url", "os", "os/exec", "os/signal", "os/signal/internal/pty", "os/user",
  "path", "path/filepath", "plugin", "reflect", "regexp", "regexp/syntax", "runtime",
  "runtime/cgo", "runtime/coverage", "runtime/debug", "runtime/internal/atomic",
  "runtime/internal/math", "runtime/internal/startlinetest", "runtime/internal/sys",
  "runtime/internal/wasitest", "runtime/metrics", "runtime/pprof", "runtime/race",
  "runtime/trace", "slices", "sort", "strconv", "strings", "sync", "sync/atomic", "syscall",
  "testing", "testing/fstest", "testing/iotest", "testing/quick", "testing/slogtest",
  "text/scanner", "text/tabwriter", "text/template", "text/template/parse", "time", "time/tzdata",
  "unicode", "unicode/utf16", "unicode/utf8", "unique", "unsafe",
  "vendor/golang.org/x/crypto/chacha20", "vendor/golang.org/x/crypto/chacha20poly1305",
  "vendor/golang.org/x/crypto/cryptobyte", "vendor/golang.org/x/crypto/cryptobyte/asn1",
  "vendor/golang.org/x/crypto/hkdf", "vendor/golang.org/x/crypto/internal/alias",
  "vendor/golang.org/x/crypto/internal/poly1305", "vendor/golang.org/x/net/dns/dnsmessage",
  "vendor/golang.org/x/net/http/httpguts", "vendor/golang.org/x/net/http/httpproxy",
  "vendor/golang.org/x/net/http2/hpack", "vendor/golang.org/x/net/idna",
  "vendor/golang.org/x/net/lif", "vendor/golang.org/x/net/nettest",
  "vendor/golang.org/x/net/route", "vendor/golang.org/x/sys/cpu",
  "vendor/golang.org/x/text/secure/bidirule", "vendor/golang.org/x/text/transform",
  "vendor/golang.org/x/text/unicode/bidi", "vendor/golang.org/x/text/unicode/norm"]

/-- Every bundled import path. -/
def bundledIds : List String := firstIds ++ secondIds

end PackageCensus.StandardList

import UserAgent.RuleSet

/-!
# The built-in rule table

In each category the more specific patterns come before the general ones that would otherwise win.
-/

namespace UserAgent.RuleSet.BuiltIn

/-- A rule of the table. -/
def rule (patterns : List String) (specs : List Json) : Json :=
  .arr [.ofTexts patterns, .arr specs]

/-- The rules for browsers. -/
def browserRules : List Json := [
  -- Chrome for iOS / Android data saver
  rule ["\\b(?:crmo|crios)\\/([\\w\\.]+)"] [.str "version", .ofTexts ["name", "Chrome"]],
  -- Microsoft Edge
  rule ["edg(?:e|ios|a)?\\/([\\w\\.]+)"] [.str "version", .ofTexts ["name", "Edge"]],
  -- Presto based Opera
  rule [
      "(opera\\smini)\\/([-\\w\\.]+)",
      "(opera\\s[mobiletab]\x7b3,6\x7d)\\b.+version\\/([-\\w\\.]+)",
      "(opera)(?:.+version\\/|[\\/\\s]+)([\\w\\.]+)"]
    [.str "name", .str "version"],
  rule ["opios[\\/\\s]+([\\w\\.]+)"] [.str "version", .ofTexts ["name", "Opera Mini"]],
  -- Chromium based Opera
  rule ["\\bopr\\/([\\w\\.]+)"] [.str "version", .ofTexts ["name", "Opera"]],
  rule [
      "(kindle)\\/([\\w\\.]+)",
      "(lunascape|maxthon|netfront|jasmine|blazer)[\\/\\s]?([\\w\\.]*)",
      "(avant\\s|iemobile|slim)(?:browser)?[\\/\\s]?([\\w\\.]*)",
      "(ba?idubrowser)[\\/\\s]?([\\w\\.]+)",
      "(?:ms|\\()(ie)\\s([\\w\\.]+)",
      "(flock|rockmelt|midori|epiphany|silk|skyfire|ovibrowser|bolt|iron|vivaldi|iridium" ++
      "|phantomjs|bowser|quark|qupzilla|falkon|rekonq|puffin|brave|whale|qqbrowserlite" ++
      "|qq)\\/([-\\w\\.]+)",
      "(weibo)__([\\d\\.]+)"]
    [.str "name", .str "version"],
  rule [
      "(?:\\buc\\s?browser|(?:juc.+)ucweb)[\\/\\s]?([\\w\\.]+)"]
    [.str "version", .ofTexts ["name", "UCBrowser"]],
  rule ["\\bqbcore\\/([\\w\\.]+)"] [.str "version", .ofTexts ["name", "WeChat(Win) Desktop"]],
  rule ["micromessenger\\/([\\w\\.]+)"] [.str "version", .ofTexts ["name", "WeChat"]],
  rule ["konqueror\\/([\\w\\.]+)"] [.str "version", .ofTexts ["name", "Konqueror"]],
  -- Internet Explorer 11
  rule [
      "trident.+rv[:\\s]([\\w\\.]\x7b1,9\x7d)\\b.+like\\sgecko"]
    [.str "version", .ofTexts ["name", "IE"]],
  rule ["yabrowser\\/([\\w\\.]+)"] [.str "version", .ofTexts ["name", "Yandex"]],
  rule [
      "(avast|avg)\\/([\\w\\.]+)"]
    [.ofTexts ["name", "(.+)", "\\1 Secure Browser"], .str "version"],
  rule ["\\bfocus\\/([\\w\\.]+)"] [.str "version", .ofTexts ["name", "Firefox Focus"]],
  rule ["\\bopt\\/([\\w\\.]+)"] [.str "version", .ofTexts ["name", "Opera Touch"]],
  rule ["coc_coc_browser\\/([\\w\\.]+)"] [.str "version", .ofTexts ["name", "Coc Coc"]],
  rule ["dolfin\\/([\\w\\.]+)"] [.str "version", .ofTexts ["name", "Dolphin"]],
  rule ["coast\\/([\\w\\.]+)"] [.str "version", .ofTexts ["name", "Opera Coast"]],
  rule ["xiaomi\\/miuibrowser\\/([\\w\\.]+)"] [.str "version", .ofTexts ["name", "MIUI Browser"]],
  rule ["fxios\\/([-\\w\\.]+)"] [.str "version", .ofTexts ["name", "Firefox"]],
  rule ["(samsungbrowser)\\/([\\w\\.]+)"] [.str "name", .str "version"],
  rule ["(comodo_dragon)\\/([\\w\\.]+)"] [.ofTexts ["name", "_", " "], .str "version"],
  rule [
      "(electron)\\/([\\w\\.]+)\\ssafari",
      "(tesla)(?:\\sqtcarbrowser|\\/(20\\d\\d\\.[-\\w\\.]+))",
      "m?(qqbrowser|baiduboxapp|2345explorer)[\\/\\s]?([\\w\\.]+)"]
    [.str "name", .str "version"],
  rule ["(metasr)[\\/\\s]?([\\w\\.]+)", "(lbbrowser)"] [.str "name"],
  rule [";fbav\\/([\\w\\.]+);"] [.str "version", .ofTexts ["name", "Facebook"]],
  rule [
      "headlesschrome(?:\\/([\\w\\.]+)|\\s)"]
    [.str "version", .ofTexts ["name", "Chrome Headless"]],
  -- Android WebView; the name literal still consumes the "chrome" capture
  rule ["\\swv\\).+(chrome)\\/([\\w\\.]+)"] [.ofTexts ["name", "Chrome WebView"], .str "version"],
  rule [
      "droid.+\\sversion\\/([\\w\\.]+)\\b.+(?:mobile\\ssafari|safari)"]
    [.str "version", .ofTexts ["name", "Android Browser"]],
  rule [
      "(chrome|omniweb|arora|[tizenoka]\x7b5\x7d\\s?browser)\\/v?([\\w\\.]+)"]
    [.str "name", .str "version"],
  rule [
      "version\\/([\\w\\.]+)\\s.*mobile\\/\\w+\\s(safari)"]
    [.str "version", .ofTexts ["name", "Mobile Safari"]],
  rule ["version\\/([\\w\\.]+)\\s.*(mobile\\s?safari|safari)"] [.str "version", .str "name"],
  -- Safari < 3.0 only reports its build number
  rule [
      "webkit.+?(mobile\\s?safari|safari)(\\/[\\w\\.]+)"]
    [.str "name", .ofTexts ["version", "mapping", "safari"]],
  rule ["(webkit|khtml)\\/([\\w\\.]+)"] [.str "name", .str "version"],
  rule ["(navigator|netscape)\\/([\\w\\.]+)"] [.ofTexts ["name", "Netscape"], .str "version"],
  rule [
      "ile\\svr;\\srv:([\\w\\.]+)\\).+firefox"]
    [.str "version", .ofTexts ["name", "Firefox Reality"]],
  rule [
      "ekiohf.+(flow)\\/([\\w\\.]+)",
      "(swiftfox)",
      "(icedragon|iceweasel|camino|chimera|fennec|maemo\\sbrowser|minimo" ++
      "|conkeror)[\\/\\s]?([\\w\\.\\+]+)",
      "(firefox|seamonkey|k-meleon|icecat|iceape|firebird|phoenix|palemoon|basilisk" ++
      "|waterfox)\\/([-\\w\\.]+)$",
      "(firefox)\\/([\\w\\.]+)\\s[\\w\\s\\-]+\\/[\\w\\.]+$",
      "(mozilla)\\/([\\w\\.]+)\\s.+rv\\:.+gecko\\/\\d+",
      "(polaris|lynx|dillo|icab|doris|amaya|w3m|netsurf|sleipnir)[\\/\\s]?([\\w\\.]+)",
      "(links)\\s\\(([\\w\\.]+)",
      "(gobrowser)\\/?([\\w\\.]*)",
      "(ice\\s?browser)\\/v?([\\w\\._]+)",
      "(mosaic)[\\/\\s]([\\w\\.]+)"]
    [.str "name", .str "version"]]

/-- The rules for rendering engines. -/
def engineRules : List Json := [
  rule ["windows.+\\sedge\\/([\\w\\.]+)"] [.str "version", .ofTexts ["name", "EdgeHTML"]],
  rule [
      "webkit\\/537\\.36.+chrome\\/(?!27)([\\w\\.]+)"]
    [.str "version", .ofTexts ["name", "Blink"]],
  rule [
      "(presto)\\/([\\w\\.]+)",
      "(webkit|trident|netfront|netsurf|amaya|lynx|w3m|goanna)\\/([\\w\\.]+)",
      "ekioh(flow)\\/([\\w\\.]+)",
      "(khtml|tasman|links)[\\/\\s]\\(?([\\w\\.]+)",
      "(icab)[\\/\\s]([23]\\.[\\d\\.]+)"]
    [.str "name", .str "version"],
  rule ["rv\\:([\\w\\.]\x7b1,9\x7d)\\b.+(gecko)"] [.str "version", .str "name"]]

/-- The rules for operating systems. -/
def osRules : List Json := [
  rule ["microsoft\\s(windows)\\s(vista|xp)"] [.str "name", .str "version"],
  rule [
      "(windows)\\snt\\s6\\.2;\\s(arm)",
      "(windows\\sphone(?:\\sos)*)[\\s\\/]?([\\d\\.\\s\\w]*)",
      "(windows\\smobile|windows)[\\s\\/]?([ntce\\d\\.\\s]+\\w)(?!.+xbox)"]
    [.str "name", .ofTexts ["version", "mapping", "windows"]],
  rule [
      "(win(?=3|9|n)|win\\s9x\\s)([nt\\d\\.]+)"]
    [.ofTexts ["name", "Windows"], .ofTexts ["version", "mapping", "windows"]],
  -- iOS
  rule [
      "ip[honead]\x7b2,4\x7d\\b(?:.*os\\s([\\w]+)\\slike\\smac|;\\sopera)",
      "cfnetwork\\/.+darwin"]
    [.ofTexts ["version", "_", "."], .ofTexts ["name", "iOS"]],
  -- Mac OS
  rule [
      "(mac\\sos\\sx)\\s?([\\w\\s\\.]*)",
      "(macintosh|mac(?=_powerpc)\\s)(?!.+haiku)"]
    [.ofTexts ["name", "Mac OS"], .ofTexts ["version", "_", "."]],
  rule ["(cros)\\s[\\w]+\\s([\\w\\.]+\\w)"] [.ofTexts ["name", "Chromium OS"], .str "version"],
  -- Mobile and embedded
  rule [
      "(android|webos|palm\\sos|qnx|bada|rim\\stablet\\sos|meego|sailfish" ++
      "|contiki)[-\\/\\s]?([\\w\\.]*)",
      "(blackberry)\\w*\\/([\\w\\.]*)",
      "(tizen|kaios)[\\/\\s]([\\w\\.]+)",
      "\\((series40);"]
    [.str "name", .str "version"],
  rule ["\\(bb(10);"] [.str "version", .ofTexts ["name", "BlackBerry"]],
  rule [
      "(?:symbian\\s?os|symbos|s60(?=;)|series60)[-\\/\\s]?([\\w\\.]*)"]
    [.str "version", .ofTexts ["name", "Symbian"]],
  rule ["mozilla.+\\(mobile;.+gecko.+firefox"] [.ofTexts ["name", "Firefox OS"]],
  -- Consoles
  rule [
      "(nintendo|playstation)\\s([wids345portablevuch]+)",
      "(xbox);\\s+xbox\\s([^\\);]+)"]
    [.str "name", .str "version"],
  -- Linux and other Unix-like systems
  rule [
      "(mint)[\\/\\s\\(\\)]?(\\w*)",
      "(mageia|vectorlinux)[;\\s]",
      "(joli|[kxln]?ubuntu|debian|suse|opensuse|gentoo|arch(?=\\slinux)|slackware|fedora" ++
      "|mandriva|centos|pclinuxos|red\\shat|zenwalk|linpus|raspbian|plan\\s9|minix|risc\\sos" ++
      "|contiki|deepin|manjaro|elementary\\sos|sabayon" ++
      "|linspire)(?:\\sgnu\\/linux)?(?:\\slinux)?[\\/\\s-]?(?!chrom|package)([-\\w\\.]*)",
      "(hurd|linux)\\s?([\\w\\.]*)",
      "(gnu)\\s?([\\w\\.]*)"]
    [.str "name", .str "version"],
  rule [
      "\\b([-frentopcghs]\x7b0,5\x7dbsd|dragonfly)[\\/\\s]?(?!amd" ++
      "|[ix346]\x7b1,2\x7d86)([\\w\\.]*)"]
    [.str "name", .str "version"],
  rule ["(haiku)\\s(\\w+)"] [.str "name", .str "version"],
  rule ["(sunos)\\s?([\\w\\.\\d]*)"] [.ofTexts ["name", "Solaris"], .str "version"],
  rule [
      "((?:open)?solaris)[-\\/\\s]?([\\w\\.]*)",
      "(aix)\\s((\\d)(?=\\.|\\)|\\s)[\\w\\.])*",
      "(unix)\\s?([\\w\\.]*)"]
    [.str "name", .str "version"]]

/-- The rules for architectures. -/
def cpuRules : List Json := [
  rule ["((?:amd|x(?:(?:86|64)[-_])?|wow|win)64)[;\\)]"] [.ofTexts ["architecture", "amd64"]],
  rule ["(ia32(?=;))"] [.ofTexts ["architecture", "lowerize"]],
  rule ["((?:i[346]|x)86)[;\\)]"] [.ofTexts ["architecture", "ia32"]],
  rule ["\\b(aarch64|armv?8e?l?)\\b"] [.ofTexts ["architecture", "arm64"]],
  rule ["\\b(arm(?:v[67])?ht?n?[fl]p?)\\b"] [.ofTexts ["architecture", "armhf"]],
  rule ["windows\\s(ce|mobile);\\sppc;"] [.ofTexts ["architecture", "arm"]],
  rule [
      "((?:ppc|powerpc)(?:64)?)(?:\\smac|;|\\))"]
    [.ofTexts ["architecture", "ower", "", "lowerize"]],
  rule ["(sun4\\w)[;\\)]"] [.ofTexts ["architecture", "sparc"]],
  rule [
      "((?:avr32|ia64(?=;))|68k(?=\\))|\\barm(?=v(?:[1-7]|[5-7]1)l?|;|eabi)|(?:irix|mips" ++
      "|sparc)(?:64)?\\b|pa-risc)"]
    [.ofTexts ["architecture", "lowerize"]]]

/-- The rules for devices. -/
def deviceRules : List Json := [
  -- Apple
  rule [
      "\\((ipad|playbook);[\\w\\s\\),;-]+(rim|apple)"]
    [.str "model", .str "vendor", .ofTexts ["type", "tablet"]],
  rule [
      "applecoremedia\\/[\\w\\.]+\\s\\((ipad)"]
    [.str "model", .ofTexts ["vendor", "Apple"], .ofTexts ["type", "tablet"]],
  rule [
      "\\((ip(?:hone|od)[\\s\\w]*);"]
    [.str "model", .ofTexts ["vendor", "Apple"], .ofTexts ["type", "mobile"]],
  -- Samsung
  rule [
      "\\b(sch-i[89]0\\d|shw-m380s|sm-[ptx]\\w\x7b2,4\x7d|gt-[pn]\\d\x7b2,4\x7d|sgh-t8[56]9" ++
      "|nexus\\s10)"]
    [.str "model", .ofTexts ["vendor", "Samsung"], .ofTexts ["type", "tablet"]],
  rule [
      "\\b((?:s[cgp]h|gt|sm)-\\w+|galaxy\\snexus)",
      "samsung[-\\w]+\\s([\\w-]+)",
      "sec-(sgh\\w+)"]
    [.str "model", .ofTexts ["vendor", "Samsung"], .ofTexts ["type", "mobile"]],
  -- Huawei
  rule [
      "\\b((?:ag[rs][23]|bah2?|sht?|btv)-a?[lw]\\d\x7b2\x7d)\\b"]
    [.str "model", .ofTexts ["vendor", "Huawei"], .ofTexts ["type", "tablet"]],
  rule [
      "(?:huawei|honor)([-\\w\\s]+)\\sbuild\\/"]
    [.ofTexts ["model", "^[\\s-]+", ""],
      .ofTexts ["vendor", "Huawei"],
      .ofTexts ["type", "mobile"]],
  -- Xiaomi
  rule [
      "\\b(poco[\\w\\s]+)(?:\\sbuild|\\))",
      "\\b(hm[-_\\s]?note?[_\\s]?(?:\\d\\w)?)\\sbuild",
      "\\b(redmi[\\-_\\s]?(?:note|k)?[\\w\\s]+?)(?:\\sbuild|\\))",
      "\\b(mi[-_\\s]?(?:a\\d|one|note\\slte|max|\\d\x7b1,2\x7d[a-z]?)(?:[_\\s](?:plus|se|lite" ++
      "|pro))?)(?:\\sbuild|\\))"]
    [.ofTexts ["model", "_", " "], .ofTexts ["vendor", "Xiaomi"], .ofTexts ["type", "mobile"]],
  rule [
      "\\b(oneplus)[\\s_-]?(a?\\d[0-9a-z]\x7b2,3\x7d)"]
    [.ofTexts ["vendor", "OnePlus"], .str "model", .ofTexts ["type", "mobile"]],
  -- Google
  rule [
      "droid.+;\\s(pixel\\s?(?:c|slate))\\b"]
    [.str "model", .ofTexts ["vendor", "Google"], .ofTexts ["type", "tablet"]],
  rule [
      "droid.+;\\s(pixel[\\s\\daxl]\x7b0,6\x7d)(?:\\sbuild|\\))"]
    [.str "model", .ofTexts ["vendor", "Google"], .ofTexts ["type", "mobile"]],
  rule [
      "\\b(nexus\\s[45])\\b"]
    [.str "model", .ofTexts ["vendor", "LG"], .ofTexts ["type", "mobile"]],
  rule [
      "\\b(nexus\\s6)\\b"]
    [.str "model", .ofTexts ["vendor", "Motorola"], .ofTexts ["type", "mobile"]],
  rule [
      "\\b(nexus\\s7)\\b"]
    [.str "model", .ofTexts ["vendor", "Asus"], .ofTexts ["type", "tablet"]],
  rule [
      "\\b(nexus\\s9)\\b"]
    [.str "model", .ofTexts ["vendor", "HTC"], .ofTexts ["type", "tablet"]],
  -- LG
  rule [
      "\\blg[-e;\\/\\s]+((?!browser|netcast|android\\stv)\\w+)",
      "\\blg-?([\\d\\w]+)\\sbuild"]
    [.str "model", .ofTexts ["vendor", "LG"], .ofTexts ["type", "mobile"]],
  -- Sony
  rule [
      "\\bsony[\\s_-]?([\\w-]+)",
      "\\b(xperia[\\s\\w]*?)\\sbuild"]
    [.str "model", .ofTexts ["vendor", "Sony"], .ofTexts ["type", "mobile"]],
  -- Motorola
  rule [
      "\\b(mot(?:orola)?[\\s-]\\w*|xt\\d\x7b3,4\x7d|moto\\s[\\w\\s]+?)(?:\\sbuild|\\)|;)"]
    [.str "model", .ofTexts ["vendor", "Motorola"], .ofTexts ["type", "mobile"]],
  -- HTC
  rule [
      "\\b(htc)[-_\\s;\\/]*(\\w[\\w\\s]*?)(?:\\sbuild|\\)|;)"]
    [.str "vendor", .ofTexts ["model", "_", " "], .ofTexts ["type", "mobile"]],
  -- Nokia
  rule [
      "(nokia)[-_\\s]*([\\w\\.-]*)"]
    [.ofTexts ["vendor", "Nokia"], .str "model", .ofTexts ["type", "mobile"]],
  -- BlackBerry
  rule [
      "\\(bb10;\\s(\\w+)"]
    [.str "model", .ofTexts ["vendor", "BlackBerry"], .ofTexts ["type", "mobile"]],
  rule [
      "(blackberry)[\\s-]?(\\w+)"]
    [.ofTexts ["vendor", "BlackBerry"], .str "model", .ofTexts ["type", "mobile"]],
  -- Amazon
  rule [
      "\\b(kf[a-z]\x7b2,4\x7d)\\sbuild"]
    [.str "model", .ofTexts ["vendor", "Amazon"], .ofTexts ["type", "tablet"]],
  rule [
      "(kindle)\\/([\\w\\.]+)"]
    [.ofTexts ["vendor", "Amazon"], .ofTexts ["model", "Kindle"], .ofTexts ["type", "tablet"]],
  -- Consoles
  rule [
      "(playstation\\s[345portablevi]+)"]
    [.str "model", .ofTexts ["vendor", "Sony"], .ofTexts ["type", "console"]],
  rule [
      "\\b(xbox(?:\\sone)?(?!;\\sxbox))[\\);]"]
    [.str "model", .ofTexts ["vendor", "Microsoft"], .ofTexts ["type", "console"]],
  rule [
      "(nintendo)[-_\\s]?([wids3utch]+)"]
    [.str "vendor", .str "model", .ofTexts ["type", "console"]],
  rule ["\\b(ouya)\\b"] [.str "vendor", .ofTexts ["type", "console"]],
  -- Smart TVs
  rule ["smart-tv.+(samsung)"] [.str "vendor", .ofTexts ["type", "smarttv"]],
  rule [
      "hbbtv.+maple;(\\d+)"]
    [.ofTexts ["model", "^", "SmartTV"],
      .ofTexts ["vendor", "Samsung"],
      .ofTexts ["type", "smarttv"]],
  rule [
      "(nux;\\snetcast.+smarttv|lg\\s(netcast\\.tv-201\\d|android\\stv))"]
    [.ofTexts ["vendor", "LG"], .ofTexts ["type", "smarttv"]],
  rule [
      "(apple)\\s?tv"]
    [.str "vendor", .ofTexts ["model", "Apple TV"], .ofTexts ["type", "smarttv"]],
  rule [
      "crkey"]
    [.ofTexts ["model", "Chromecast"],
      .ofTexts ["vendor", "Google"],
      .ofTexts ["type", "smarttv"]],
  rule [
      "droid.+aft(\\w)(\\s?bui|\\))"]
    [.str "model", .ofTexts ["vendor", "Amazon"], .ofTexts ["type", "smarttv"]],
  rule [
      "\\b(roku)[\\dx]*[\\)\\/]((?:dvp-)?[\\d\\.]*)"]
    [.str "vendor", .str "model", .ofTexts ["type", "smarttv"]],
  rule [
      "\\b(android\\stv|smart[-\\s]?tv|opera\\stv|smarttv|googletv|tizen.+smart)\\b"]
    [.ofTexts ["type", "smarttv"]],
  -- Wearables
  rule ["((pebble))app"] [.str "vendor", .str "model", .ofTexts ["type", "wearable"]],
  rule [
      "droid.+;\\s(glass)\\s\\d"]
    [.str "model", .ofTexts ["vendor", "Google"], .ofTexts ["type", "wearable"]],
  rule [
      "(watch)(?:\\s?os[,\\/]|\\d,\\d\\/)[\\d\\.]+"]
    [.str "model", .ofTexts ["vendor", "Apple"], .ofTexts ["type", "wearable"]],
  -- Embedded
  rule [
      "(tesla)(?:\\sqtcarbrowser|\\/20\\d\\d\\.[-\\w\\.]+)"]
    [.str "vendor", .ofTexts ["type", "embedded"]],
  -- Desktop Macs
  rule ["\\((macintosh);"] [.str "model", .ofTexts ["vendor", "Apple"]],
  -- Samsung devices identified only by a product token
  rule [
      "\\b(samsung)[-_\\s]?(\\w+)"]
    [.ofTexts ["vendor", "Samsung"], .str "model", .ofTexts ["type", "mobile"]],
  -- Unbranded Android devices that still report a model
  rule [
      "android\\s[\\d\\.]+;\\s(?:u;\\s)?(?:[a-z]\x7b2\x7d[-_][a-z]\x7b2\x7d;\\s)?([a-z][\\w\\s\\.-]*?\\d[\\w\\.-]*;?)\\sbuild\\/"]
    [.str "model", .ofTexts ["vendor", "Generic"]],
  -- Generic form factors
  rule [
      "\\b(tablet|tab)[;\\/]",
      "\\b(mobile)(?:[;\\/]|\\ssafari)"]
    [.ofTexts ["type", "lowerize"], .str "vendor", .str "model"]]

/-- The built-in rule table. -/
def table : Json :=
  .obj [
    ("version", .str "2026.10"),
    ("last_updated", .str "2026-10-19"),
    ("browser", .arr browserRules),
    ("engine", .arr engineRules),
    ("os", .arr osRules),
    ("cpu", .arr cpuRules),
    ("device", .arr deviceRules)]

end UserAgent.RuleSet.BuiltIn

namespace UserAgent.RuleSet

/-- A rule set without rules. -/
def empty : RuleSet :=
  ⟨{}, unknownVersion, unknownVersion, none, none⟩

/-- The built-in rule set. The table compiles, so the empty one never takes its place; and no pattern
of it names a character, so no table of names is needed. -/
def builtIn : RuleSet :=
  (ofTable {} BuiltIn.table).value.toOption.getD empty

/-- The built-in table, read strictly. -/
def builtInStrictly : Logged (Compiled RuleSet) :=
  ofTable { strict := true } BuiltIn.table

end UserAgent.RuleSet

/-!
# Names that browsers give themselves

Every browser has some names under which it asks for pages. How often a browser is chosen follows
how common it is.
-/

namespace DeviceScript.Http

def nt (version : String) : String := "Windows NT " ++ version

def wow (version : String) : String := nt version ++ "; WOW64"

def wide (version : String) : String := nt version ++ "; Win64; x64"

def osx (version : String) : String := "Macintosh; Intel Mac OS X " ++ version

def chrome (system version : String) (engine : String := "537.36") : String :=
  "Mozilla/5.0 (" ++ system ++ ") AppleWebKit/" ++ engine ++ " (KHTML, like Gecko) Chrome/" ++
    version ++ " Safari/" ++ engine

def opera (engine version system : String) : String :=
  "Opera/9.80 (" ++ system ++ ") Presto/" ++ engine ++ " Version/" ++ version

def firefox (system version : String) (engine : String := "20100101") : String :=
  "Mozilla/5.0 (" ++ system ++ ") Gecko/" ++ engine ++ " Firefox/" ++ version

def gecko (system version : String) (engine : String := "20100101") : String :=
  firefox (system ++ "; rv:" ++ version) version engine

def safari (engine version build system : String) : String :=
  "Mozilla/5.0 (" ++ system ++ ") AppleWebKit/" ++ engine ++ " (KHTML, like Gecko) Version/" ++
    version ++ " Safari/" ++ build

def windows (version language : String) : String :=
  "Windows; U; Windows NT " ++ version ++ "; " ++ language

def mac (version language : String) : String :=
  "Macintosh; U; Intel Mac OS X " ++ version ++ "; " ++ language

/-- A name of internetexplorer, up to what is said about the system. -/
def explorer (major version system : String) : String :=
  "Mozilla/" ++ major ++ ".0 (compatible; MSIE " ++ version ++ "; Windows NT " ++ system

def chromeNames : List String :=
  [chrome (nt "6.1") "41.0.2228.0", chrome (osx "10_10_1") "41.0.2227.1",
    chrome "X11; Linux x86_64" "41.0.2227.0", chrome (wow "6.1") "41.0.2227.0",
    chrome (wow "6.3") "41.0.2226.0", chrome (wow "6.4") "41.0.2225.0",
    chrome (wow "6.3") "41.0.2225.0", chrome (nt "5.1") "41.0.2224.3",
    chrome (nt "10.0") "40.0.2214.93", chrome (osx "10_10_1") "37.0.2062.124",
    chrome (wide "6.3") "37.0.2049.0", chrome (wow "4.0") "37.0.2049.0",
    chrome (wow "6.1") "36.0.1985.67", chrome (nt "5.1") "36.0.1985.67",
    chrome "X11; OpenBSD i386" "36.0.1985.125", chrome (osx "10_9_2") "36.0.1944.0",
    chrome (nt "5.1") "35.0.3319.102", chrome (nt "5.1") "35.0.2309.372",
    chrome (nt "5.1") "35.0.2117.157", chrome (osx "10_9_3") "35.0.1916.47",
    chrome (nt "5.1") "34.0.1866.237",
    "Mozilla/5.0 (X11; Linux x86_64) AppleWebKit/537.36 (KHTML, like Gecko) " ++
      "Chrome/34.0.1847.137 Safari/4E423F",
    "Mozilla/5.0 (Windows NT 5.1) AppleWebKit/537.36 (KHTML, like Gecko) Chrome/34.0.1847.116 " ++
      "Safari/537.36 Mozilla/5.0 (iPad; U; CPU OS 3_2 like Mac OS X; en-us) " ++
      "AppleWebKit/531.21.10 (KHTML, like Gecko) Version/4.0.4 Mobile/7B334b Safari/531.21.10",
    chrome "X11; Linux x86_64" "33.0.1750.517", chrome (wide "6.2") "32.0.1667.0",
    chrome (osx "10_9_0") "32.0.1664.3", chrome (osx "10_8_0") "32.0.1664.3",
    chrome (nt "5.1") "31.0.1650.16", chrome (wow "6.1") "31.0.1623.0",
    chrome (wow "6.2") "30.0.1599.17", chrome (wow "6.1") "29.0.1547.62",
    chrome "X11; CrOS i686 4319.74.0" "29.0.1547.57", chrome (wow "6.2") "29.0.1547.2",
    chrome (nt "6.1") "28.0.1468.0", chrome (nt "6.2") "28.0.1467.0",
    chrome (nt "6.2") "28.0.1464.0", chrome (wow "6.2") "27.0.1500.55",
    chrome (wow "6.2") "27.0.1453.93", chrome (wow "6.1") "27.0.1453.93",
    chrome (nt "6.1") "27.0.1453.93", chrome (nt "5.1") "27.0.1453.93",
    chrome (osx "10_8_3") "27.0.1453.93", chrome (osx "10_7_5") "27.0.1453.93",
    chrome (nt "6.1") "27.0.1453.90", chrome "X11; NetBSD" "27.0.1453.116",
    chrome "X11; CrOS i686 3912.101.0" "27.0.1453.116", chrome (wow "6.1") "24.0.1312.60" "537.17",
    chrome (osx "10_8_2") "24.0.1309.0" "537.17", chrome (wow "6.2") "24.0.1295.0" "537.15",
    chrome (wow "6.2") "24.0.1292.0" "537.14"]

def operaNames : List String :=
  [opera "2.12.388" "12.16" "X11; Linux i686; Ubuntu/14.10",
    opera "2.12.388" "12.14" "Windows NT 6.0",
    "Mozilla/5.0 (Windows NT 6.0; rv:2.0) Gecko/20100101 Firefox/4.0 Opera 12.14",
    "Mozilla/5.0 (compatible; MSIE 9.0; Windows NT 6.0) Opera 12.14",
    "Opera/12.80 (Windows NT 5.1; U; en) Presto/2.10.289 Version/12.02"] ++
  ["Windows NT 6.1; U; es-ES", "Windows NT 5.1; U; zh-sg"].map (opera "2.9.181" "12.00") ++
  ["Opera/12.0(Windows NT 5.2;U;en)Presto/22.9.168 Version/12.00",
    "Opera/12.0(Windows NT 5.1;U;en)Presto/22.9.168 Version/12.00",
    "Mozilla/5.0 (Windows NT 5.1) Gecko/20100101 Firefox/14.0 Opera/12.0"] ++
  ["Windows NT 6.1; WOW64; U; pt", "Windows NT 6.0; U; pl"].map (opera "2.10.229" "11.62") ++
  ["Macintosh; Intel Mac OS X 10.6.8; U; fr",
    "Macintosh; Intel Mac OS X 10.6.8; U; de"].map (opera "2.9.168" "11.52") ++
  [opera "2.9.168" "11.51" "Windows NT 5.1; U; en",
    "Mozilla/5.0 (compatible; MSIE 9.0; Windows NT 6.1; de) Opera 11.51"] ++
  ["X11; Linux x86_64; U; fr", "X11; Linux i686; U; hu"].map (opera "2.9.168" "11.50") ++
  ["X11; Linux i686; U; ru", "X11; Linux i686; U; es-ES"].map (opera "2.8.131" "11.11") ++
  ["Mozilla/5.0 (Windows NT 5.1; U; en; rv:1.8.1) Gecko/20061208 Firefox/5.0 Opera 11.11",
    opera "2.8.131" "11.10" "X11; Linux x86_64; U; bg",
    opera "2.8.99" "11.10" "Windows NT 6.0; U; en",
    opera "2.8.131" "11.10" "Windows NT 5.1; U; zh-tw",
    opera "2.8.149" "11.1" "Windows NT 6.1; Opera Tablet/15165; U; en"] ++
  ["X11; Linux x86_64; U; Ubuntu/10.10 (maverick); pl", "X11; Linux i686; U; ja",
    "X11; Linux i686; U; fr", "Windows NT 6.1; U; zh-tw", "Windows NT 6.1; U; zh-cn",
    "Windows NT 6.1; U; sv", "Windows NT 6.1; U; en-US", "Windows NT 6.1; U; cs",
    "Windows NT 6.0; U; pl", "Windows NT 5.2; U; ru", "Windows NT 5.1; U;",
    "Windows NT 5.1; U; cs"].map (opera "2.7.62" "11.01") ++
  ["Mozilla/5.0 (Windows; U; Windows NT 6.1; en-US; rv:1.9.2.13) Gecko/20101213 Opera/9.80 " ++
      "(Windows NT 6.1; U; zh-tw) Presto/2.7.62 Version/11.01",
    "Mozilla/5.0 (Windows NT 6.1; U; nl; rv:1.9.1.6) Gecko/20091201 Firefox/3.5.6 Opera 11.01",
    "Mozilla/5.0 (Windows NT 6.1; U; de; rv:1.9.1.6) Gecko/20091201 Firefox/3.5.6 Opera 11.01",
    "Mozilla/4.0 (compatible; MSIE 8.0; Windows NT 6.1; de) Opera 11.01"] ++
  ["X11; Linux x86_64; U; pl", "X11; Linux i686; U; it"].map (opera "2.7.62" "11.00") ++
  [opera "2.6.37" "11.00" "Windows NT 6.1; U; zh-cn"] ++
  ["Windows NT 6.1; U; pl", "Windows NT 6.1; U; ko", "Windows NT 6.1; U; fi",
    "Windows NT 6.1; U; en-GB", "Windows NT 6.1 x64; U; en"].map (opera "2.7.62" "11.00") ++
  [opera "2.7.39" "11.00" "Windows NT 6.0; U; en"]

def firefoxNames : List String :=
  [firefox "Windows NT 6.1; WOW64; rv:40.0" "40.1", gecko (nt "6.3") "36.0",
    gecko (osx "10_10") "33.0", gecko "X11; Linux i586" "31.0", gecko (wow "6.1") "31.0" "20130401",
    gecko (nt "5.1") "31.0", gecko (wow "6.1") "29.0" "20120101",
    firefox "Windows NT 6.1; Win64; x64; rv:25.0" "29.0", gecko "X11; OpenBSD amd64" "28.0",
    "Mozilla/5.0 (X11; Linux x86_64; rv:28.0) Gecko/20100101  Firefox/28.0",
    gecko (nt "6.1") "27.3" "20130101", gecko (wide "6.2") "27.0" "20121011",
    gecko (wide "6.1") "25.0", gecko (osx "10.6") "25.0", gecko "X11; Ubuntu; Linux x86_64" "24.0",
    gecko (wow "6.0") "24.0", gecko (osx "10.8") "24.0",
    firefox "Windows NT 6.2; rv:22.0" "23.0" "20130405", gecko (wow "6.1") "23.0" "20130406",
    gecko (wide "6.1") "23.0" "20131011", gecko (nt "6.2") "22.0" "20130405",
    gecko (wide "6.1") "22.0" "20130328", gecko (nt "6.1") "22.0" "20130405",
    gecko "Microsoft Windows NT 6.2.9200.0)" "22.0" "20130405",
    firefox "Windows NT 6.2; Win64; x64; rv:16.0.1" "21.0.1" "20121011",
    firefox "Windows NT 6.1; Win64; x64; rv:16.0.1" "21.0.1" "20121011",
    gecko (wide "6.2") "21.0.0" "20121011", gecko "X11; Ubuntu; Linux x86_64" "21.0" "20130331",
    gecko "X11; Ubuntu; Linux x86_64" "21.0", gecko "X11; Linux i686" "21.0",
    gecko (wow "6.2") "21.0" "20130514", gecko (nt "6.2") "21.0" "20130326",
    gecko (wow "6.1") "21.0" "20130401", gecko (wow "6.1") "21.0" "20130331",
    gecko (wow "6.1") "21.0" "20130330", gecko (wow "6.1") "21.0",
    gecko (nt "6.1") "21.0" "20130401", gecko (nt "6.1") "21.0" "20130328", gecko (nt "6.1") "21.0",
    gecko (nt "5.1") "21.0" "20130401", gecko (nt "5.1") "21.0" "20130331", gecko (nt "5.1") "21.0",
    gecko (nt "5.0") "21.0", gecko (osx "10.8") "21.0",
    firefox "Windows NT 6.2; Win64; x64;" "20.0", gecko "Windows x86" "19.0",
    firefox "Windows NT 6.1; rv:6.0" "19.0", firefox "Windows NT 6.1; rv:14.0" "18.0.1",
    "Mozilla/5.0 (Windows NT 6.1; WOW64; rv:18.0)  Gecko/20100101 Firefox/18.0",
    firefox "X11; Ubuntu; Linux x86_64; rv:17.0" "17.0.6"]

def safariNames : List String :=
  [safari "537.75.14" "7.0.3" "7046A194A" "Macintosh; Intel Mac OS X 10_9_3",
    safari "536.26" "6.0 Mobile/10A5355d" "8536.25" "iPad; CPU OS 6_0 like Mac OS X",
    safari "537.13+" "5.1.7" "534.57.2" "Macintosh; Intel Mac OS X 10_6_8",
    safari "534.55.3" "5.1.3" "534.53.10" "Macintosh; Intel Mac OS X 10_7_3",
    "Mozilla/5.0 (iPad; CPU OS 5_1 like Mac OS X) AppleWebKit/534.46 (KHTML, like Gecko ) " ++
      "Version/5.1 Mobile/9B176 Safari/7534.48.3"] ++
  [mac "10_6_8" "de-at", mac "10_6_7" "da-dk"].map (safari "533.21.1" "5.0.5" "533.21.1") ++
  [windows "6.1" "tr-TR", windows "6.1" "ko-KR", windows "6.1" "fr-FR", windows "6.1" "en-US",
    windows "6.1" "cs-CZ", windows "6.0" "ja-JP", windows "6.0" "en-US",
    "Macintosh; U; PPC Mac OS X 10_5_8; zh-cn", "Macintosh; U; PPC Mac OS X 10_5_8; ja-jp",
    mac "10_6_7" "ja-jp", mac "10_6_6" "zh-cn", mac "10_6_6" "sv-se", mac "10_6_6" "ko-kr",
    mac "10_6_6" "ja-jp", mac "10_6_6" "it-it", mac "10_6_6" "fr-fr", mac "10_6_6" "es-es",
    mac "10_6_6" "en-us", mac "10_6_6" "en-gb",
    mac "10_6_6" "de-de"].map (safari "533.20.25" "5.0.4" "533.20.27") ++
  [safari "533.19.4" "5.0.3" "533.19.4" (windows "6.1" "sv-SE")] ++
  [windows "6.1" "ja-JP", windows "6.1" "de-DE"].map (safari "533.20.25" "5.0.3" "533.19.4") ++
  [safari "533.19.4" "5.0.3" "533.19.4" (windows "6.0" "hu-HU")] ++
  [windows "6.0" "en-US", windows "6.0" "de-DE"].map (safari "533.20.25" "5.0.3" "533.19.4") ++
  [safari "533.19.4" "5.0.3" "533.19.4" (windows "5.1" "ru-RU")] ++
  [windows "5.1" "ja-JP", windows "5.1" "it-IT",
    windows "5.1" "en-US"].map (safari "533.20.25" "5.0.3" "533.19.4") ++
  [safari "534.16+" "5.0.3" "533.19.4" (mac "10_6_7" "en-us"),
    safari "533.19.4" "5.0.3" "533.19.4" (mac "10_6_6" "fr-ch"),
    safari "534.15+" "5.0.3" "533.19.4" (mac "10_6_5" "de-de")] ++
  [mac "10_6_5" "ar",
    "Android 2.2; Windows; U; Windows NT 6.1; en-US"].map (safari "533.19.4" "5.0.3" "533.19.4") ++
  [safari "533.18.1" "5.0.2" "533.18.5" (windows "6.1" "zh-HK"),
    safari "533.19.4" "5.0.2" "533.18.5" (windows "6.1" "en-US")] ++
  [windows "6.0" "tr-TR", windows "6.0" "nb-NO",
    windows "6.0" "fr-FR"].map (safari "533.18.1" "5.0.2" "533.18.5") ++
  [safari "533.19.4" "5.0.2" "533.18.5" (windows "5.1" "zh-TW")] ++
  [windows "5.1" "ru-RU", mac "10_5_8" "zh-cn"].map (safari "533.18.1" "5.0.2" "533.18.5")

def explorerNames : List String :=
  ["Mozilla/5.0 (Windows NT 6.1; WOW64; Trident/7.0; AS; rv:11.0) like Gecko",
    "Mozilla/5.0 (compatible, MSIE 11, Windows NT 6.3; Trident/7.0;  rv:11.0) like Gecko",
    explorer "5" "10.6" ("6.1; Trident/5.0; InfoPath.2; SLCC1; .NET CLR 3.0.4506.2152; .NET " ++
      "CLR 3.5.30729; .NET CLR 2.0.50727) 3gpp-gba UNTRUSTED/1.0")] ++
  ["7.0; InfoPath.3; .NET CLR 3.1.40767; Trident/6.0; en-IN)", "6.1; WOW64; Trident/6.0)",
    "6.1; Trident/6.0)", "6.1; Trident/5.0)",
    "6.1; Trident/4.0; InfoPath.2; SV1; .NET CLR 2.0.50727; WOW64)"].map (explorer "5" "10.0") ++
  ["Mozilla/5.0 (compatible; MSIE 10.0; Macintosh; Intel Mac OS X 10_7_3; Trident/6.0)",
    "Mozilla/4.0 (Compatible; MSIE 8.0; Windows NT 5.2; Trident/6.0)",
    explorer "4" "10.0" "6.1; Trident/5.0)", "Mozilla/1.22 (compatible; MSIE 10.0; Windows 3.1)",
    "Mozilla/5.0 (Windows; U; MSIE 9.0; WIndows NT 9.0; en-US))",
    "Mozilla/5.0 (Windows; U; MSIE 9.0; Windows NT 9.0; en-US)"] ++
  ["7.1; Trident/5.0)",
    "6.1; WOW64; Trident/5.0; SLCC2; Media Center PC 6.0; InfoPath.3; MS-RTC LM 8; Zune 4.7)",
    "6.1; WOW64; Trident/5.0; SLCC2; Media Center PC 6.0; InfoPath.3; MS-RTC LM 8; Zune 4.7",
    "6.1; WOW64; Trident/5.0; SLCC2; .NET CLR 2.0.50727; .NET CLR 3.5.30729; .NET CLR " ++
      "3.0.30729; Media Center PC 6.0; Zune 4.0; InfoPath.3; MS-RTC LM 8; .NET4.0C; .NET4.0E)",
    "6.1; WOW64; Trident/5.0; chromeframe/12.0.742.112)",
    "6.1; WOW64; Trident/5.0; .NET CLR 3.5.30729; .NET CLR 3.0.30729; .NET CLR 2.0.50727; " ++
      "Media Center PC 6.0)",
    "6.1; Win64; x64; Trident/5.0; .NET CLR 3.5.30729; .NET CLR 3.0.30729; .NET CLR " ++
      "2.0.50727; Media Center PC 6.0)",
    "6.1; Win64; x64; Trident/5.0; .NET CLR 2.0.50727; SLCC2; .NET CLR 3.5.30729; .NET CLR " ++
      "3.0.30729; Media Center PC 6.0; Zune 4.0; Tablet PC 2.0; InfoPath.3; .NET4.0C; .NET4.0E)",
    "6.1; Win64; x64; Trident/5.0", "6.1; Trident/5.0; yie8)",
    "6.1; Trident/5.0; SLCC2; .NET CLR 2.0.50727; .NET CLR 3.5.30729; .NET CLR 3.0.30729; " ++
      "Media Center PC 6.0; InfoPath.2; .NET CLR 1.1.4322; .NET4.0C; Tablet PC 2.0)",
    "6.1; Trident/5.0; FunWebProducts)", "6.1; Trident/5.0; chromeframe/13.0.782.215)",
    "6.1; Trident/5.0; chromeframe/11.0.696.57)", "6.1; Trident/5.0) chromeframe/10.0.648.205",
    "6.1; Trident/4.0; GTB7.4; InfoPath.1; SV1; .NET CLR 2.8.52393; WOW64; en-US)",
    "6.0; Trident/5.0; chromeframe/11.0.696.57)",
    "6.0; Trident/4.0; GTB7.4; InfoPath.3; SV1; .NET CLR 3.1.76908; WOW64; en-US)"].map
    (explorer "5" "9.0") ++
  ["6.1; Trident/4.0; GTB7.4; InfoPath.2; SV1; .NET CLR 3.3.69573; WOW64; en-US)",
    "6.0; Trident/4.0; WOW64; Trident/4.0; SLCC2; .NET CLR 2.0.50727; .NET CLR 3.5.30729; " ++
      ".NET CLR 3.0.30729; .NET CLR 1.0.3705; .NET CLR 1.1.4322)",
    "6.0; Trident/4.0; InfoPath.1; SV1; .NET CLR 3.8.36217; WOW64; en-US)",
    "6.0; Trident/4.0; .NET CLR 2.7.58687; SLCC2; Media Center PC 5.0; Zune 3.4; Tablet PC " ++
      "3.6; InfoPath.3)",
    "5.2; Trident/4.0; Media Center PC 4.0; SLCC1; .NET CLR 3.0.04320)",
    "5.1; Trident/4.0; SLCC1; .NET CLR 3.0.4506.2152; .NET CLR 3.5.30729; .NET CLR 1.1.4322)",
    "5.1; Trident/4.0; InfoPath.2; SLCC1; .NET CLR 3.0.4506.2152; .NET CLR 3.5.30729; .NET " ++
      "CLR 2.0.50727)",
    "5.1; Trident/4.0; .NET CLR 1.1.4322; .NET CLR 2.0.50727)", "5.1; SLCC1; .NET CLR 1.1.4322)",
    "5.0; Trident/4.0; InfoPath.1; SV1; .NET CLR 3.0.4506.2152; .NET CLR 3.5.30729; .NET CLR " ++
      "3.0.04506.30)"].map (explorer "5" "8.0") ++
  [explorer "5" "7.0" ("5.0; Trident/4.0; FBSMTWB; .NET CLR 2.0.34861; .NET CLR " ++
      "3.0.3746.3218; .NET CLR 3.5.33652; msn OptimizedIE8;ENUS)")] ++
  ["6.2; Trident/4.0; SLCC2; .NET CLR 2.0.50727; .NET CLR 3.5.30729; .NET CLR 3.0.30729; " ++
      "Media Center PC 6.0)",
    "6.1; WOW64; Trident/4.0; SLCC2; Media Center PC 6.0; InfoPath.2; MS-RTC LM 8)",
    "6.1; WOW64; Trident/4.0; SLCC2; Media Center PC 6.0; InfoPath.2; MS-RTC LM 8",
    "6.1; WOW64; Trident/4.0; SLCC2; .NET CLR 2.0.50727; Media Center PC 6.0; .NET CLR " ++
      "3.5.30729; .NET CLR 3.0.30729; .NET4.0C)",
    "6.1; WOW64; Trident/4.0; SLCC2; .NET CLR 2.0.50727; InfoPath.3; .NET4.0C; .NET4.0E; " ++
      ".NET CLR 3.5.30729; .NET CLR 3.0.30729; MS-RTC LM 8)",
    "6.1; WOW64; Trident/4.0; SLCC2; .NET CLR 2.0.50727; InfoPath.2)",
    "6.1; WOW64; Trident/4.0; SLCC2; .NET CLR 2.0.50727; .NET CLR 3.5.30729; .NET CLR " ++
      "3.0.30729; Media Center PC 6.0; Zune 3.0)"].map (explorer "4" "8.0")

def browsers : List (String × List String) :=
  [("chrome", chromeNames),
    ("opera", operaNames),
    ("firefox", firefoxNames),
    ("safari", safariNames),
    ("internetexplorer", explorerNames)]

def chances : List (String × Nat) :=
  [("chrome", 741), ("internetexplorer", 48), ("firefox", 150), ("safari", 36), ("opera", 10)]

def allChances : Nat := chances.foldl (fun total chance => total + chance.2) 0

def browserAt (chance : Nat) : List (String × Nat) → String
  | [] => ""
  | (browser, count) :: others =>
    if chance < count then browser else browserAt (chance - count) others

end DeviceScript.Http
